import TokenConformance.Proofs.Collector.Push
import TokenConformance.Proofs.ExceptLaws
import TokenConformance.Proofs.OrderedMapLaws

/-!
# First declarations — which value and which place an attribute gets

Of declarations with one name the first gives the name its value and the last gives it its place,
counted from behind (`HoldsFirst`).  Inserting pairs in reverse brings this about
(`holdsFirst_firstWins`).  What stands for the pairs one by one is held in the same way
(`HoldsFirst.of_forall₂`), and so are the attributes of a start tag once it is pushed, with their names
and values decoded (`push_startTag_holdsFirst`).
-/

namespace TokenConformance

open Text (ofString)

/-! ## Definitions -/

section Defs

/-- The position at which a key stands last among names. -/
def lastPosition (names : List Text) (key : Text) : Nat :=
  names.length - 1 - names.reverse.idxOf key

/-- A map holds declared items: it has each of their names once, with the value of the first item of
that name, and a name stands the earlier in it the later its last item is declared. -/
structure HoldsFirst {α : Type} (name : α → Text) (Value : α → Text → Prop) (declared : List α)
    (m : OrderedMap Text Text) : Prop where
  once : m.keys.Nodup
  keys : ∀ key, key ∈ m.keys ↔ ∃ a ∈ declared, name a = key
  value : ∀ key a, declared.find? (fun a => name a == key) = some a →
    ∃ v, Value a v ∧ m.get? key = some v
  order : m.keys.Pairwise fun key key' =>
    lastPosition (declared.map name) key' < lastPosition (declared.map name) key

end Defs

/-! ## Pairs -/

section Pairs

/-- The last position of a key is the one behind which the key does not stand. -/
theorem lastPosition_append_cons {before after : List Text} {key : Text} (h : key ∉ after) :
    lastPosition (before ++ key :: after) key = before.length := by
  have hbehind : key ∉ after.reverse := fun hmem => h (List.mem_reverse.1 hmem)
  rw [lastPosition, List.reverse_append, List.reverse_cons, List.append_assoc,
    List.singleton_append, List.idxOf_append_of_notMem hbehind, List.idxOf_cons_self]
  simp only [List.length_append, List.length_cons, List.length_reverse]
  omega

variable {α : Type} [BEq α] [LawfulBEq α]

/-- Without its repetitions a list has its items in the order of their first positions. -/
theorem pairwise_idxOf_eraseDups (l : List α) :
    l.eraseDups.Pairwise fun a b => l.idxOf a < l.idxOf b := by
  induction l using List.reverseRecOn with
  | nil => exact List.Pairwise.nil
  | append_singleton l x ih =>
    have hold : ∀ a ∈ l.eraseDups, (l ++ [x]).idxOf a = l.idxOf a := fun a ha =>
      List.idxOf_append_of_mem (List.mem_eraseDups.1 ha)
    rw [List.eraseDups_append, List.pairwise_append]
    refine ⟨ih.imp_of_mem fun ha hb hab => ?_, ?_, fun a ha b hb => ?_⟩
    · rwa [hold _ ha, hold _ hb]
    · by_cases hx : x ∈ l <;> simp [List.removeAll, List.eraseDups_cons, hx]
    · -- an item that is new at the end stands behind all others
      have hb : b ∉ l ∧ b = x := by
        simpa [List.removeAll, and_comm] using hb
      rw [hold a ha, List.idxOf_append_of_notMem hb.1]
      exact Nat.lt_of_lt_of_le (List.idxOf_lt_length_of_mem (List.mem_eraseDups.1 ha))
        (Nat.le_add_right _ _)

theorem lastPosition_lt {names : List Text} {key key' : Text} (hkey : key' ∈ names)
    (h : names.reverse.idxOf key < names.reverse.idxOf key') :
    lastPosition names key' < lastPosition names key := by
  have hlt : names.reverse.idxOf key' < names.length := by
    rw [← List.length_reverse]
    exact List.idxOf_lt_length_of_mem (List.mem_reverse.2 hkey)
  unfold lastPosition
  omega

variable {pairs : List (Text × Text)}

theorem keys_firstWins : (firstWins pairs).keys = (pairs.map Prod.fst).reverse.eraseDups := by
  rw [firstWins, OrderedMap.keys_ofList, List.map_reverse]

theorem get?_firstWins {key : Text} {p : Text × Text}
    (h : pairs.find? (fun p => p.1 == key) = some p) : (firstWins pairs).get? key = some p.2 := by
  obtain ⟨hkey, before, after, rfl, hbefore⟩ := List.find?_eq_some_iff_append.1 h
  obtain rfl : p.1 = key := by simpa using hkey
  -- read backwards, the first pair of a name is the last one
  refine OrderedMap.get?_ofList_eq_some_iff.2 ⟨after.reverse, before.reverse, by simp, ?_⟩
  intro hmem
  obtain ⟨q, hq, heq⟩ := List.mem_map.1 hmem
  have hne := hbefore q (List.mem_reverse.1 hq)
  simp [heq] at hne

/-- **Inserting pairs in reverse holds the first of each name.** -/
theorem holdsFirst_firstWins (pairs : List (Text × Text)) :
    HoldsFirst Prod.fst (fun p v => p.2 = v) pairs (firstWins pairs) where
  once := (firstWins pairs).nodup
  keys key := by
    rw [keys_firstWins, List.mem_eraseDups, List.mem_reverse, List.mem_map]
  value key p h := ⟨p.2, rfl, get?_firstWins h⟩
  order := by
    rw [keys_firstWins]
    refine (pairwise_idxOf_eraseDups _).imp_of_mem fun _ hkey' hlt => ?_
    exact lastPosition_lt (List.mem_reverse.1 (List.mem_eraseDups.1 hkey')) hlt

end Pairs

/-! ## Attributes -/

section Attributes

variable {α : Type} {name : α → Text} {Value : α → Text → Prop} {declared : List α}
  {pairs : List (Text × Text)} {m : OrderedMap Text Text}

/-- The first of a list goes with the first of another whose items have the same names. -/
theorem exists_find?_of_forall₂ {R : α → Text × Text → Prop} (hname : ∀ a p, R a p → p.1 = name a)
    (h : List.Forall₂ R declared pairs) {key : Text} {a : α}
    (hfind : declared.find? (fun a => name a == key) = some a) :
    ∃ p, R a p ∧ pairs.find? (fun p => p.1 == key) = some p := by
  induction h with
  | nil => cases hfind
  | @cons b p declared pairs hbp _ ih =>
    rw [List.find?_cons] at hfind ⊢
    rw [hname b p hbp]
    cases hkey : name b == key with
    | true =>
      rw [hkey] at hfind
      cases hfind
      exact ⟨p, hbp, rfl⟩
    | false =>
      rw [hkey] at hfind
      exact ih hfind

/-- What pairs stand for is held if the pairs are. -/
theorem HoldsFirst.of_forall₂ (hm : HoldsFirst Prod.fst (fun p v => p.2 = v) pairs m)
    (h : List.Forall₂ (fun a p => p.1 = name a ∧ Value a p.2) declared pairs) :
    HoldsFirst name Value declared m := by
  have hnames : declared.map name = pairs.map Prod.fst := by
    rw [← List.forall₂_eq_eq_eq, List.forall₂_map_left_iff, List.forall₂_map_right_iff]
    exact h.imp fun a p hap => hap.1.symm
  refine ⟨hm.once, fun key => ?_, fun key a hfind => ?_, ?_⟩
  · rw [hm.keys, ← List.mem_map, ← List.mem_map, hnames]
  · obtain ⟨p, hap, hfound⟩ := exists_find?_of_forall₂ (fun _ _ hap => hap.1) h hfind
    obtain ⟨v, rfl, hget⟩ := hm.value key p hfound
    exact ⟨p.2, hap.2, hget⟩
  · rw [hnames]
    exact hm.order

namespace Collector

theorem holdsFirst_of_decodeAttributes {attributes : List Attribute}
    (h : decodeAttributes attributes = .ok m) :
    HoldsFirst (fun a => a.name.replaceNulls) (fun a v => decodeAttributeValue a.value = .ok v)
      attributes m := by
  obtain ⟨pairs, hpairs, hm⟩ := Except.bind_eq_ok_iff.1 h
  cases hm
  refine (holdsFirst_firstWins pairs).of_forall₂ ((Except.mapM_eq_ok_iff.1 hpairs).imp fun a p hap => ?_)
  obtain ⟨v, hv, hp⟩ := Except.bind_eq_ok_iff.1 hap
  cases hp
  exact ⟨rfl, hv⟩

/-- **The first declaration wins**: a start tag whose push succeeds is collected with its attributes held
by their decoded names and values, and pairs by themselves are held by their names as they are. -/
theorem push_startTag_holdsFirst :
    (∀ (c : Collector) (name : Text) (attributes : List Attribute) (selfClosing : Bool),
      (c.push (.startTag name attributes selfClosing)).failure? = none →
        ∃ m, (c.push (.startTag name attributes selfClosing)).collector.tokens =
            c.tokens ++ [.startTag name.replaceNulls m selfClosing] ∧
          HoldsFirst (fun a => a.name.replaceNulls)
            (fun a v => decodeAttributeValue a.value = .ok v) attributes m) ∧
      ∀ pairs : List (Text × Text),
        HoldsFirst Prod.fst (fun p v => p.2 = v) pairs (firstWins pairs) := by
  refine ⟨fun c name attributes selfClosing hpush => ?_, holdsFirst_firstWins⟩
  have hother : (StreamToken.startTag name attributes selfClosing).isText = false := rfl
  cases hdecode : decodeAttributes attributes with
  | error e =>
    have htoken : tokenOf (.startTag name attributes selfClosing) = .error (.numeral e) := by
      rw [tokenOf, hdecode]
    rw [(push_of_tokenOf_error hother htoken).1] at hpush
    cases hpush
  | ok m =>
    have htoken : tokenOf (.startTag name attributes selfClosing) =
        .ok (.startTag name.replaceNulls m selfClosing) := by
      rw [tokenOf, hdecode]
    obtain ⟨-, hcollector⟩ := push_of_tokenOf hother htoken
    refine ⟨m, ?_, holdsFirst_of_decodeAttributes hdecode⟩
    rw [hcollector, tokens_of_none rfl]

/-- Two names become one as nulls are replaced.  The first of them gives the value, and the last, which is
declared behind all others, the place in front of them. -/
theorem push_startTag_holdsFirst_merged :
    let attributes : List Attribute :=
      [⟨[0], ofString "1"⟩, ⟨ofString "y", ofString "2"⟩, ⟨[0xFFFD], ofString "3"⟩]
    (empty.push (.startTag (ofString "a") attributes false)).failure? = none ∧
      ∃ m, (empty.push (.startTag (ofString "a") attributes false)).collector.tokens =
          [.startTag (ofString "a") m false] ∧
        m.get? [0xFFFD] = some (ofString "1") ∧ m.keys = [[0xFFFD], ofString "y"] := by
  intro attributes
  have hpush : (empty.push (.startTag (ofString "a") attributes false)).failure? = none ∧
      (empty.push (.startTag (ofString "a") attributes false)).collector.tokens =
        [.startTag (ofString "a")
          (firstWins [([0xFFFD], ofString "1"), (ofString "y", ofString "2"),
            ([0xFFFD], ofString "3")]) false] := by
    decide +kernel
  obtain ⟨m, htokens, hholds⟩ :=
    push_startTag_holdsFirst.1 empty (ofString "a") attributes false hpush.1
  obtain ⟨v, hv, hget⟩ := hholds.value [0xFFFD] ⟨[0], ofString "1"⟩ (by decide)
  have hvalue : v = ofString "1" := by
    have hdecoded : decodeAttributeValue (ofString "1") = .ok (ofString "1") := by decide +kernel
    rw [hdecoded] at hv
    cases hv
    rfl
  refine ⟨hpush.1, m, htokens, by rw [hget, hvalue], ?_⟩
  rw [hpush.2] at htokens
  cases htokens
  decide +kernel

end Collector

end Attributes

end TokenConformance
