import QueryPlans.Text.Digit
import QueryPlans.Text.Search

/-!
# Internet addresses

* `ipv4?` — four numbers up to 255 with points between them.
* `ipv6?` — the eight groups of an address with colons between groups, one run of zeros left out
  at `::`, and the last two groups perhaps written as an IPv4 address.
* `ipv6Text` — the shortest form of an address.
-/

namespace QueryPlans.Url

/-- One number of an IPv4 address: one to three digits, without zeros in front. -/
def octet? (ds : List Char) : Option Nat :=
  if ds.isEmpty || 3 < ds.length || !ds.all Char.isDigit then none
  else if ds.head? = some '0' && 1 < ds.length then none
  else
    let n := ds.foldl (fun n c => 10 * n + (c.toNat - 0x30)) 0
    if n ≤ 255 then some n else none

/-- The numbers of an IPv4 address. -/
def ipv4? (text : List Char) : Option (List Nat) :=
  match Text.splitOn '.' text with
  | [a, b, c, d] => [a, b, c, d].mapM octet?
  | _ => none

/-- One group of an IPv6 address: one to four hexadecimal digits. -/
def group? (ds : List Char) : Option Nat :=
  if ds.isEmpty || 4 < ds.length then none
  else (ds.mapM Text.hexDigitValue?).map fun vs => vs.foldl (fun n v => 16 * n + v) 0

/-- The parts between colons, with an IPv4 address at the end written as two groups. -/
def ipv6Parts? (text : List Char) : Option (List (List Char)) :=
  let parts := Text.splitOn ':' text
  match parts.getLast? with
  | none => none
  | some last =>
    if last.contains '.' then
      (ipv4? last).bind fun
        | [a, b, c, d] =>
          let hex (n : Nat) := Nat.toDigits 16 n
          some (parts.dropLast ++ [hex (256 * a + b), hex (256 * c + d)])
        | _ => none
    else some parts

/-- The groups on one side of the gap; the outermost part is empty only next to the gap. -/
def groupsBeside? (parts : List (List Char)) (outer : Option (List Char)) : Option (List Nat) :=
  if outer = some [] then (if parts.length = 1 then some [] else none)
  else parts.mapM group?

/-- The groups of an IPv6 address without a zone. -/
def ipv6? (text : List Char) : Option (List Nat) := do
  if (Text.splitOn ':' text).length < 3 then none
  let parts ← ipv6Parts? text
  if 9 < parts.length then none
  let inner := (parts.drop 1).dropLast
  match inner.findIdx? (·.isEmpty) with
  | none => if parts.length = 8 then parts.mapM group? else none
  | some i =>
    if 1 < (inner.filter (·.isEmpty)).length then none
    let before := parts.take (i + 1)
    let after := parts.drop (i + 2)
    let high ← groupsBeside? before before.head?
    let low ← groupsBeside? after after.getLast?
    let known := high.length + low.length
    if 8 ≤ known then none
    return high ++ List.replicate (8 - known) 0 ++ low

/-- An IPv6 address, perhaps with a zone after a percent sign. -/
def isZonedIpv6 (text : List Char) : Bool :=
  match Text.cut '%' text with
  | (address, none) => (ipv6? address).isSome
  | (address, some zone) =>
    !zone.isEmpty && !zone.contains '%' && !address.contains '/' && (ipv6? address).isSome

/-- The length of the run of zeros at the start. -/
def leadingZeros (groups : List Nat) : Nat := (groups.takeWhile (· == 0)).length

/-- Position and length of the first longest run of zeros. -/
def longestZeros (groups : List Nat) : Nat × Nat :=
  (List.range groups.length).foldl (fun best i =>
    let n := leadingZeros (groups.drop i)
    if best.2 < n then (i, n) else best) (0, 0)

/-- The shortest form of an address: lower-case groups, and `::` for the first longest run of at
least two zeros. -/
def ipv6Text (groups : List Nat) : String :=
  let text (gs : List Nat) := Text.joined ":" (gs.map fun g => String.ofList (Nat.toDigits 16 g))
  let (start, count) := longestZeros groups
  if count < 2 then text groups
  else text (groups.take start) ++ "::" ++ text (groups.drop (start + count))

end QueryPlans.Url
