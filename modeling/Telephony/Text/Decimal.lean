/-!
# Numbers in text

Reading of unsigned decimal numbers with a limit, and the few fixed forms in which numbers are
shown: upper-case hexadecimal with a least width, and text padded to a column.
-/

namespace Telephony.Text

/-- The ten digits of ASCII; digits of other scripts do not count. -/
def isDigit (c : Char) : Bool := '0' ≤ c && c ≤ '9'

def digitValue (c : Char) : Nat := c.toNat - '0'.toNat

/-- The value of a row of digits, the most significant first. -/
def digitsValue (digits : List Char) : Nat :=
  digits.foldl (fun value c => value * 10 + digitValue c) 0

/-- The digits of an unsigned number behind its optional plus sign. -/
def unsigned : List Char → List Char
  | '+' :: rest => rest
  | chars => chars

/-- Reads an unsigned decimal number that does not exceed `limit`. One leading plus sign and leading
zeros are allowed; anything else, blanks included, makes the text no number. -/
def readNat? (limit : Nat) (text : String) : Option Nat :=
  let digits := unsigned text.toList
  if digits.isEmpty || !digits.all isDigit then none
  else if digitsValue digits ≤ limit then some (digitsValue digits) else none

theorem readNat?_le {limit : Nat} {text : String} {value : Nat}
    (h : readNat? limit text = some value) : value ≤ limit := by
  simp only [readNat?] at h
  split at h
  · cases h
  · split at h
    · next hle => exact Option.some.inj h ▸ hle
    · cases h

/-- Upper-case hexadecimal digits, with zeros in front up to `width`. -/
def hex (width n : Nat) : String :=
  let digits := (Nat.toDigits 16 n).map Char.toUpper
  String.ofList (List.replicate (width - digits.length) '0' ++ digits)

/-- Blanks behind the text up to `width` characters; a longer text stays as it is. -/
def padRight (width : Nat) (text : String) : String :=
  text ++ String.ofList (List.replicate (width - text.length) ' ')

/-- Splits at the first occurrence of `c`, which belongs to neither part. -/
def splitOnce? (c : Char) : List Char → Option (List Char × List Char)
  | [] => none
  | d :: rest =>
    if d = c then some ([], rest)
    else (splitOnce? c rest).map fun (front, back) => (d :: front, back)

theorem splitOnce?_eq_some {c : Char} {chars front back : List Char}
    (h : splitOnce? c chars = some (front, back)) : chars = front ++ c :: back ∧ c ∉ front := by
  induction chars generalizing front with
  | nil => simp [splitOnce?] at h
  | cons d rest ih =>
    simp only [splitOnce?] at h
    split at h
    · next hd =>
      obtain ⟨rfl, rfl⟩ := Prod.mk.inj (Option.some.inj h)
      simp [hd]
    · next hd =>
      obtain ⟨⟨front', back'⟩, hsplit, heq⟩ := Option.map_eq_some_iff.1 h
      obtain ⟨rfl, rfl⟩ := Prod.mk.inj heq
      obtain ⟨rfl, hnot⟩ := ih hsplit
      exact ⟨rfl, by simpa using ⟨fun h => hd h.symm, hnot⟩⟩

end Telephony.Text
