import SandboxTasks.Text.Hex

namespace SandboxTasks.Text.Percent

def decodeBytes : List UInt8 → List UInt8
  | 37 :: h :: l :: bs =>
    match Hex.value? (Char.ofUInt8 h), Hex.value? (Char.ofUInt8 l) with
    | some h, some l => UInt8.ofNat (h * 16 + l) :: decodeBytes bs
    | _, _ => 37 :: decodeBytes (h :: l :: bs)
  | b :: bs => b :: decodeBytes bs
  | [] => []

def decode? (s : String) : Option String := String.fromUTF8? ⟨(decodeBytes s.toUTF8.toList).toArray⟩

def encodeByte (b : UInt8) : List Char := '%' :: ([b.toNat / 16, b.toNat % 16].map fun n => (Hex.digit n).toUpper)

def encode (isPlain : Char → Bool) (cs : List Char) : List Char :=
  cs.flatMap fun c => if isPlain c && c.toNat < 0x80 then [c] else (String.singleton c).toUTF8.toList.flatMap encodeByte

end SandboxTasks.Text.Percent
