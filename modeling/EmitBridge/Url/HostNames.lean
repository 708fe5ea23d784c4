import EmitBridge.Text.Basic

/-! Names of hosts in letters of any script, and the names in ASCII that stand for them. The tables
that take one to the other are given from outside. All that is asked of them is that a name in ASCII
is not empty, and where characters in it come from that would divide an address. -/

namespace EmitBridge

structure HostNameError where
  kind : String
  message : String
deriving DecidableEq, Repr

def isAsciiChar (c : Char) : Bool := c.toNat < 0x80

def isDivider (c : Char) : Bool := "/?#@:".toList.contains c

def isNameChar (c : Char) : Bool :=
  isAsciiChar c && !isDivider c && !"\t\r\n".toList.contains c

/-- Addresses and requests each have conversions of their own. -/
class HostNames where
  compatible : List Char → List Char
  encode : List Char → Except HostNameError (List Char)
  decode : List Char → Except HostNameError (List Char)
  register? : List Char → Option (List Char)
  recover : List Char → Except HostNameError (List Char)
  /-- A divider in a name in ASCII stands in the name itself, or for a character of it in every
  text around this character. -/
  encode_plain : ∀ {name ascii}, encode name = .ok ascii → ascii ≠ [] ∧ ∀ c ∈ ascii,
    isNameChar c = true ∨ c ∈ name ∨ isDivider c = true ∧ ∃ x ∈ name, isAsciiChar x = false ∧
      ∀ before after, c ∈ compatible (before ++ x :: after)
  register?_plain : ∀ {name ascii}, register? name = some ascii →
    ascii ≠ [] ∧ ∀ c ∈ ascii, c.isAlphanum = true ∨ c = '-' ∨ c = '.'

namespace HostNames.AsciiOnly

scoped instance : HostNames where
  compatible := id
  encode _ := .error ⟨"UnicodeError", "label empty or too long"⟩
  decode := .ok
  register? _ := none
  recover := .ok
  encode_plain := nofun
  register?_plain := nofun

end HostNames.AsciiOnly

end EmitBridge
