import FactGraph.Text.Digit

namespace FactGraph.Text

inductive Utf8Problem where
  | invalidStart
  | invalidContinuation
  | unexpectedEnd
  deriving Repr, DecidableEq

structure Utf8Fault where
  start : Nat
  bytes : List UInt8
  problem : Utf8Problem
  deriving Repr, DecidableEq

def Utf8Problem.message : Utf8Problem → String
  | .invalidStart => "invalid start byte"
  | .invalidContinuation => "invalid continuation byte"
  | .unexpectedEnd => "unexpected end of data"

def Utf8Fault.message (fault : Utf8Fault) : String :=
  let place := match fault.bytes with
    | [byte] => "byte 0x" ++ String.ofList (hexadecimal 2 byte.toNat) ++ " in position " ++
        toString fault.start
    | bytes => "bytes in position " ++ toString fault.start ++ "-" ++
        toString (fault.start + bytes.length - 1)
  "'utf-8' codec can't decode " ++ place ++ ": " ++ fault.problem.message

/-- The ranges in which the bytes after a first byte must lie; none for a byte that starts no
    character. The first range leaves out overlong forms, surrogates and numbers beyond Unicode. -/
def continuationRanges? (first : Nat) : Option (List (Nat × Nat)) :=
  let rest := (0x80, 0xBF)
  if first < 0x80 then some []
  else if first < 0xC2 then none
  else if first < 0xE0 then some [rest]
  else if first = 0xE0 then some [(0xA0, 0xBF), rest]
  else if first = 0xED then some [(0x80, 0x9F), rest]
  else if first < 0xF0 then some [rest, rest]
  else if first = 0xF0 then some [(0x90, 0xBF), rest, rest]
  else if first < 0xF4 then some [rest, rest, rest]
  else if first = 0xF4 then some [(0x80, 0x8F), rest, rest]
  else none

inductive Continuation where
  | complete (bytes rest : List UInt8)
  | broken (bytes : List UInt8)
  | cut (bytes : List UInt8)

def continuation : List (Nat × Nat) → List UInt8 → Continuation
  | [], rest => .complete [] rest
  | _ :: _, [] => .cut []
  | (low, high) :: ranges, byte :: rest =>
    if low ≤ byte.toNat ∧ byte.toNat ≤ high then
      match continuation ranges rest with
      | .complete bytes rest => .complete (byte :: bytes) rest
      | .broken bytes => .broken (byte :: bytes)
      | .cut bytes => .cut (byte :: bytes)
    else .broken []

theorem continuation_rest_length {ranges : List (Nat × Nat)} {input bytes rest : List UInt8}
    (complete : continuation ranges input = .complete bytes rest) : rest.length ≤ input.length := by
  induction ranges generalizing input bytes with
  | nil => simp only [continuation, Continuation.complete.injEq] at complete; simp [complete.2]
  | cons range ranges ih =>
    cases input with
    | nil => simp [continuation] at complete
    | cons byte input =>
      simp only [continuation] at complete
      split at complete
      · split at complete
        · rename_i same
          simp only [Continuation.complete.injEq] at complete
          obtain ⟨-, rfl⟩ := complete
          have := ih same
          simp only [List.length_cons]
          omega
        · cases complete
        · cases complete
      · cases complete

def codePoint (first : Nat) (bytes : List UInt8) : Nat :=
  let lead := match bytes.length with
    | 0 => first
    | 1 => first - 0xC0
    | 2 => first - 0xE0
    | _ => first - 0xF0
  bytes.foldl (fun value byte => value * 64 + (byte.toNat - 0x80)) lead

def decodeFrom (offset : Nat) (done : List Char) (input : List UInt8) :
    Except Utf8Fault (List Char) :=
  match input with
  | [] => .ok done.reverse
  | first :: input =>
    match continuationRanges? first.toNat with
    | none => .error ⟨offset, [first], .invalidStart⟩
    | some ranges =>
      match complete : continuation ranges input with
      | .broken bytes => .error ⟨offset, first :: bytes, .invalidContinuation⟩
      | .cut bytes => .error ⟨offset, first :: bytes, .unexpectedEnd⟩
      | .complete bytes rest =>
        decodeFrom (offset + bytes.length + 1)
          (Char.ofNat (codePoint first.toNat bytes) :: done) rest
  termination_by input.length
  decreasing_by
    have := continuation_rest_length complete
    simp only [List.length_cons]
    omega

def decodeUtf8 (input : List UInt8) : Except Utf8Fault (List Char) :=
  decodeFrom 0 [] input

end FactGraph.Text
