/-
**Bytes written in base 64.**

Four characters of the alphabet stand for three bytes. The last group may be shorter and is then filled up
with equals signs. Other characters say nothing, nor does an equals sign that fills up no group; what
follows a group that is filled up is not read.

* `sextet?`: the value of a character of the alphabet;
* `decodeBase64?`: the bytes of a text.
-/

namespace RouteCompiler.Text

/-- The value of a character of the alphabet. -/
def sextet? (c : Char) : Option Nat :=
  if 'A' ≤ c ∧ c ≤ 'Z' then some (c.toNat - 65)
  else if 'a' ≤ c ∧ c ≤ 'z' then some (c.toNat - 71)
  else if '0' ≤ c ∧ c ≤ '9' then some (c.toNat + 4)
  else if c = '+' then some 62
  else if c = '/' then some 63
  else none

/-- What is known of a group of characters: how many there are, and the bits that fill no byte yet. -/
structure Group where
  count : Nat
  bits : Nat

/-- The bits of a group that fill a byte once a character is added, and the group after it. -/
def Group.add (group : Group) (value : Nat) : Option UInt8 × Group :=
  match group.count with
  | 0 => (none, ⟨1, value⟩)
  | 1 => (some (group.bits * 4 + value / 16).toUInt8, ⟨2, value % 16⟩)
  | 2 => (some (group.bits * 16 + value / 4).toUInt8, ⟨3, value % 4⟩)
  | _ => (some (group.bits * 64 + value).toUInt8, ⟨0, 0⟩)

/-- The bytes of the rest of a text, after a group and some equals signs, onto those read already in
reverse. -/
def decodeGroups? (group : Group) (signs : Nat) (done : List UInt8) : List Char → Option (List UInt8)
  | [] => if group.count = 0 then some done.reverse else none
  | c :: rest =>
    if c = '=' then
      if group.count < 2 then decodeGroups? group signs done rest
      else if 4 ≤ group.count + signs + 1 then some done.reverse
      else decodeGroups? group (signs + 1) done rest
    else
      match sextet? c with
      | none => decodeGroups? group signs done rest
      | some value =>
        let (byte, group) := group.add value
        decodeGroups? group 0 (byte.toList ++ done) rest

/-- The bytes that a text stands for. -/
def decodeBase64? (chars : List Char) : Option (List UInt8) :=
  decodeGroups? ⟨0, 0⟩ 0 [] chars

end RouteCompiler.Text
