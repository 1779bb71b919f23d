/-!
Text as bytes. Decoding follows the table of well-formed byte sequences; where
one is broken off or impossible, a single bad stretch is reported and decoding
goes on behind it.
-/

namespace TangibleBlocks.Utf8

def encode (s : String) : List UInt8 :=
  s.toUTF8.toList

/-- What a leading byte asks for: the bits it contributes, how many bytes follow, and the range
of the first of them. -/
structure Lead where
  bits : Nat
  following : Nat
  low : Nat
  high : Nat

def lead? (b : Nat) : Option Lead :=
  if b < 0x80 then some ⟨b, 0, 0, 0⟩
  else if b < 0xC2 then none
  else if b < 0xE0 then some ⟨b - 0xC0, 1, 0x80, 0xBF⟩
  else if b = 0xE0 then some ⟨0, 2, 0xA0, 0xBF⟩
  else if b = 0xED then some ⟨13, 2, 0x80, 0x9F⟩
  else if b < 0xF0 then some ⟨b - 0xE0, 2, 0x80, 0xBF⟩
  else if b = 0xF0 then some ⟨0, 3, 0x90, 0xBF⟩
  else if b < 0xF4 then some ⟨b - 0xF0, 3, 0x80, 0xBF⟩
  else if b = 0xF4 then some ⟨4, 3, 0x80, 0x8F⟩
  else none

/-- Reads the `following` bytes of a sequence, the first of them between `low` and `high`. The
second component counts the bytes that belong to the sequence, whether it is complete or not. -/
def follow : Nat → Nat → Nat → Nat → List UInt8 → Option Nat × Nat
  | 0, _, _, acc, _ => (some acc, 0)
  | _ + 1, _, _, _, [] => (none, 0)
  | n + 1, low, high, acc, b :: rest =>
    if low ≤ b.toNat ∧ b.toNat ≤ high then
      let r := follow n 0x80 0xBF (acc * 64 + (b.toNat - 0x80)) rest
      (r.1, r.2 + 1)
    else (none, 0)

/-- Adds the characters of a byte sequence to those that are there, last one first; `none` stands
for a bad stretch. -/
def scanOnto : Nat → List (Option Char) → List UInt8 → List (Option Char)
  | 0, done, _ => done
  | _, done, [] => done
  | fuel + 1, done, b :: rest =>
    match lead? b.toNat with
    | none => scanOnto fuel (none :: done) rest
    | some l =>
      let r := follow l.following l.low l.high l.bits rest
      scanOnto fuel (r.1.map Char.ofNat :: done) (rest.drop r.2)

/-- The characters of a byte sequence, `none` for each bad stretch. -/
def scan (bytes : List UInt8) : List (Option Char) :=
  (scanOnto bytes.length [] bytes).reverse

/-- The text, if every byte belongs to a well-formed sequence. -/
def decode? (bytes : List UInt8) : Option String :=
  ((scan bytes).mapM id).map String.ofList

/-- The text, with the replacement character for each bad stretch. -/
def decodeLossy (bytes : List UInt8) : List Char :=
  (scan bytes).map fun c => c.getD '\ufffd'

end TangibleBlocks.Utf8
