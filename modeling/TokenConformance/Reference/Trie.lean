/-!
# Tries — looking for the longest word at the start of a list

A `Trie` stores values under non-empty words.  Each branch carries a letter, the value of the word
that ends there, the trie of the words that go on, and the trie of the words that have another
letter in this place.  `longest?` finds the longest stored word that a list starts with.
-/

namespace TokenConformance

/-- Values under words over an alphabet `κ`. -/
inductive Trie (κ α : Type)
  | leaf
  | branch (letter : κ) (value : Option α) (children siblings : Trie κ α)

namespace Trie

variable {κ α : Type}

/-- The trie that holds the word `k :: word` alone. -/
def single (k : κ) (word : List κ) (v : α) : Trie κ α :=
  match word with
  | [] => branch k (some v) leaf leaf
  | k' :: word => branch k none (single k' word v) leaf

/-- Stores a value under the word `k :: word`, in place of an earlier one. -/
def insert [DecidableEq κ] : Trie κ α → (k : κ) → (word : List κ) → α → Trie κ α
  | leaf, k, word, v => single k word v
  | branch letter value children siblings, k, word, v =>
    if letter = k then
      match word with
      | [] => branch letter (some v) children siblings
      | k' :: word => branch letter value (insert children k' word v) siblings
    else branch letter value children (insert siblings k word v)

/-- Stores the values one after another; the empty word is left out. -/
def ofList [DecidableEq κ] (entries : List (List κ × α)) : Trie κ α :=
  entries.foldl (fun trie (word, v) =>
    match word with
    | [] => trie
    | k :: word => trie.insert k word v) leaf

/-- The value of a stored word. -/
def get? [DecidableEq κ] : Trie κ α → List κ → Option α
  | leaf, _ => none
  | branch _ _ _ _, [] => none
  | branch letter value children siblings, k :: word =>
    if letter = k then
      match word with
      | [] => value
      | _ => get? children word
    else get? siblings (k :: word)

/-- The value of the longest stored word that the list starts with, and what is left behind it. -/
def longest? [DecidableEq κ] : Trie κ α → List κ → Option (α × List κ)
  | leaf, _ => none
  | branch _ _ _ _, [] => none
  | branch letter value children siblings, k :: rest =>
    if letter = k then (longest? children rest).or (value.map (·, rest))
    else longest? siblings (k :: rest)

/-- What is left behind a word is shorter than the list. -/
theorem length_lt_of_longest? [DecidableEq κ] {trie : Trie κ α} {l rest : List κ} {v : α}
    (h : trie.longest? l = some (v, rest)) : rest.length < l.length := by
  induction trie generalizing l with
  | leaf => simp [longest?] at h
  | branch letter value children siblings ihc ihs =>
    cases l with
    | nil => simp [longest?] at h
    | cons k tail =>
      rw [longest?] at h
      split at h
      · rcases Option.or_eq_some_iff.1 h with h | ⟨_, h⟩
        · exact Nat.lt_succ_of_lt (ihc h)
        · obtain ⟨_, _, e⟩ := Option.map_eq_some_iff.1 h
          cases e
          exact Nat.lt_succ_self _
      · exact ihs h

end Trie

end TokenConformance
