import EmitBridge.Text.Cut
import EmitBridge.Text.Hex

/-! Numeric hosts: dotted quads, and groups of hexadecimal digits in their shortest form. -/

namespace EmitBridge.Ip

def octet? (s : List Char) : Option Nat :=
  if s.isEmpty || !s.all Char.isDigit || 3 < s.length then none
  else if s != ['0'] && s.head? == some '0' then none
  else
    let n := s.foldl (fun n c => 10 * n + (c.toNat - 0x30)) 0
    if n ≤ 255 then some n else none

def quad? (s : List Char) : Option (List Nat) := do
  let parts := Cut.all '.' s
  if parts.length == 4 then parts.mapM octet? else none

def group? (s : List Char) : Option Nat := do
  let ds ← s.mapM Hex.value?
  if ds.isEmpty || 4 < ds.length then none
  else some (ds.foldl (fun n d => 16 * n + d) 0)

def pieces? (s : List Char) : Option (List (List Char)) := do
  let parts := Cut.all ':' s
  let tail := parts.getLastD []
  if parts.length < 3 then none
  else if tail.contains '.' then
    match ← quad? tail with
    | [a, b, c, d] =>
      some (parts.dropLast ++ [Hex.lowerDigits 4 (256 * a + b), Hex.lowerDigits 4 (256 * c + d)])
    | _ => none
  else some parts

def gaps (parts : List (List Char)) : List Nat :=
  (List.range (parts.length - 1)).filter fun i => 0 < i && (parts.getD i []).isEmpty

/-- The eight groups of an address; one gap stands for at least one group of zeros. -/
def groups? (s : List Char) : Option (List Nat) := do
  let parts ← pieces? s
  if 9 < parts.length then none
  else match gaps parts with
    | [] => if parts.length == 8 then parts.mapM group? else none
    | [gap] =>
      let before := parts.take gap
      let after := parts.drop (gap + 1)
      let high ← if before == [[]] then some [] else before.mapM group?
      let low ← if after == [[]] then some [] else after.mapM group?
      if high.length + low.length < 8 then
        some (high ++ List.replicate (8 - high.length - low.length) 0 ++ low)
      else none
    | _ => none

def showGroup (n : Nat) : List Char :=
  let ds := (Hex.lowerDigits 4 n).dropWhile (· == '0')
  if ds.isEmpty then ['0'] else ds

def longestZeros (gs : List Nat) : Nat × Nat :=
  (List.range gs.length).foldl
    (fun best i =>
      let run := ((gs.drop i).takeWhile (· == 0)).length
      if best.2 < run then (i, run) else best)
    (0, 0)

def showGroups (gs : List Nat) : List Char :=
  let (start, run) := longestZeros gs
  if run < 2 then Cut.join ':' (gs.map showGroup)
  else
    Cut.join ':' ((gs.take start).map showGroup) ++ [':', ':']
      ++ Cut.join ':' ((gs.drop (start + run)).map showGroup)

/-- A numeric host in its shortest form, the second kind in brackets; anything after a percent
sign names a zone and is kept. -/
def normal? (host : List Char) : Option (List Char) :=
  let (address, zone) := Cut.first '%' host
  let zone := match zone with
    | some z => '%' :: z
    | none => []
  match quad? address with
  | some _ => some (address ++ zone)
  | none => (groups? address).map fun gs => '[' :: showGroups gs ++ zone ++ [']']

end EmitBridge.Ip
