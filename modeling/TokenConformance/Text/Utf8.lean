import TokenConformance.Text.CodePoint

/-!
# Strict UTF-8 — from bytes to text

Only well-formed sequences are read: the shortest form of each code point, no surrogates, nothing
beyond U+10FFFF.  A text without surrogates can be written.
-/

namespace TokenConformance.Text

/-- Whether a text can be written as bytes. -/
def isEncodable (t : Text) : Bool := !t.any CodePoint.isSurrogate

/-- The number of bytes of a code point. -/
def utf8SizeOf (c : CodePoint) : Nat :=
  if c.val < 0x80 then 1 else if c.val < 0x800 then 2 else if c.val < 0x10000 then 3 else 4

/-- Whether a byte continues a sequence. -/
def isContinuation (b : UInt8) : Bool := 0x80 ≤ b && b ≤ 0xBF

/-- The six bits that a continuation byte carries. -/
def continuationBits (b : UInt8) : Nat := b.toNat % 0x40

/-- The text that the bytes spell, or `none` where they are not well formed. -/
def ofUtf8? : List UInt8 → Option Text
  | [] => some []
  | a :: rest =>
    if a < 0x80 then (ofUtf8? rest).map (.ofNat a.toNat :: ·)
    else if 0xC2 ≤ a && a ≤ 0xDF then
      match rest with
      | b :: rest =>
        if isContinuation b then
          (ofUtf8? rest).map (.ofNat (a.toNat % 0x20 * 0x40 + continuationBits b) :: ·)
        else none
      | [] => none
    else if 0xE0 ≤ a && a ≤ 0xEF then
      match rest with
      | b :: c :: rest =>
        if isContinuation b && isContinuation c && (a != 0xE0 || 0xA0 ≤ b) &&
            (a != 0xED || b ≤ 0x9F) then
          (ofUtf8? rest).map (.ofNat (a.toNat % 0x10 * 0x1000 + continuationBits b * 0x40 +
            continuationBits c) :: ·)
        else none
      | _ => none
    else if 0xF0 ≤ a && a ≤ 0xF4 then
      match rest with
      | b :: c :: d :: rest =>
        if isContinuation b && isContinuation c && isContinuation d && (a != 0xF0 || 0x90 ≤ b) &&
            (a != 0xF4 || b ≤ 0x8F) then
          (ofUtf8? rest).map (.ofNat (a.toNat % 8 * 0x40000 + continuationBits b * 0x1000 +
            continuationBits c * 0x40 + continuationBits d) :: ·)
        else none
      | _ => none
    else none

/-- Turns each line end, written CR, LF or CR LF, into LF. -/
def unifyLineEnds : Text → Text
  | [] => []
  | [c] => [if c = '\r' then '\n' else c]
  | c :: d :: rest =>
    if c = '\r' then
      if d = '\n' then '\n' :: unifyLineEnds rest else '\n' :: unifyLineEnds (d :: rest)
    else c :: unifyLineEnds (d :: rest)

end TokenConformance.Text
