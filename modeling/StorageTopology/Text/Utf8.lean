/-!
# UTF-8

Engine messages, file contents and the output of programs are bytes. `decode` reads them one
byte at a time: each well-formed sequence gives its character, and each maximal ill-formed
subpart, which is a byte that starts nothing or an opened sequence that its next byte does not
continue, gives `none`. `text?` is the text of bytes that are well formed throughout, and
`lossy` puts U+FFFD in the place of every ill-formed subpart.
-/

namespace StorageTopology

/-- A string of bytes. -/
abbrev Bytes := List UInt8

namespace Utf8

/-- The bytes of a text. -/
def encode (s : String) : Bytes :=
  s.toList.flatMap String.utf8EncodeChar

/-- An opened sequence: how many bytes it lacks, at least one, which bytes may come next, and
the bits read so far. -/
structure Opened where
  missing : Nat
  lowest : UInt8
  highest : UInt8
  bits : Nat

/-- What has been read (the latest first), and the sequence that is open. -/
structure State where
  read : List (Option Char)
  opened : Option Opened

/-- Read `b` with no sequence open. A lead byte fixes the number of bytes that follow and the
range of the first of them, so that overlong forms, surrogates and code points above U+10FFFF
are never opened. -/
def lead (read : List (Option Char)) (b : UInt8) : State :=
  let n := b.toNat
  if n < 0x80 then ⟨some (Char.ofNat n) :: read, none⟩
  else if n < 0xc2 then ⟨none :: read, none⟩
  else if n < 0xe0 then ⟨read, some ⟨1, 0x80, 0xbf, n - 0xc0⟩⟩
  else if n = 0xe0 then ⟨read, some ⟨2, 0xa0, 0xbf, 0⟩⟩
  else if n = 0xed then ⟨read, some ⟨2, 0x80, 0x9f, n - 0xe0⟩⟩
  else if n < 0xf0 then ⟨read, some ⟨2, 0x80, 0xbf, n - 0xe0⟩⟩
  else if n = 0xf0 then ⟨read, some ⟨3, 0x90, 0xbf, 0⟩⟩
  else if n < 0xf4 then ⟨read, some ⟨3, 0x80, 0xbf, n - 0xf0⟩⟩
  else if n = 0xf4 then ⟨read, some ⟨3, 0x80, 0x8f, n - 0xf0⟩⟩
  else ⟨none :: read, none⟩

/-- Read one byte. A byte that does not continue the open sequence closes it as ill formed and
is then read on its own. -/
def step (s : State) (b : UInt8) : State :=
  match s.opened with
  | none => lead s.read b
  | some o =>
    if o.lowest ≤ b ∧ b ≤ o.highest then
      let bits := o.bits * 64 + (b.toNat - 0x80)
      if o.missing ≤ 1 then ⟨some (Char.ofNat bits) :: s.read, none⟩
      else ⟨s.read, some ⟨o.missing - 1, 0x80, 0xbf, bits⟩⟩
    else lead (none :: s.read) b

/-- The characters of `bytes` in order, `none` for each maximal ill-formed subpart. -/
def decode (bytes : Bytes) : List (Option Char) :=
  let s := bytes.foldl step ⟨[], none⟩
  (if s.opened.isSome then none :: s.read else s.read).reverse

/-- The text of well-formed bytes. -/
def text? (bytes : Bytes) : Option String :=
  ((decode bytes).mapM id).map String.ofList

/-- The text of any bytes, with U+FFFD for each maximal ill-formed subpart. -/
def lossy (bytes : Bytes) : String :=
  String.ofList ((decode bytes).map (·.getD '\ufffd'))

end Utf8

end StorageTopology
