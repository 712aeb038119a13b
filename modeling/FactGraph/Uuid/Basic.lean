import FactGraph.Text.Digit

namespace FactGraph

structure Uuid where
  bits : BitVec 128
  deriving DecidableEq

namespace Uuid

def ofNat? (n : Nat) : Option Uuid :=
  let bits := BitVec.ofNat 128 n
  if bits.toNat = n then some ⟨bits⟩ else none

def dashed (digits : List Char) : List Char :=
  digits.take 8 ++ '-' :: (digits.drop 8).take 4 ++ '-' :: (digits.drop 12).take 4 ++
    '-' :: (digits.drop 16).take 4 ++ '-' :: digits.drop 20

def text (id : Uuid) : String :=
  String.ofList (dashed (Text.hexadecimal 32 id.bits.toNat))

instance : ToString Uuid := ⟨text⟩

def optionText : Option Uuid → String
  | none => "None"
  | some id => id.text

end Uuid

end FactGraph
