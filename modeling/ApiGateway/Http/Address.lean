/-!
# Network addresses

A peer is a socket address: an IPv4 address and port written `a.b.c.d:port`, or an IPv6
address, an optional numeric zone and a port written `[addr%zone]:port`.

Reading: an IPv4 part is a decimal number up to 255 without leading zeros; an IPv6
address is up to eight groups of one to four hex digits separated by `:`, with at most
one `::` standing for one or more zero groups and an optional IPv4 address in place of
the last two groups; a port is a decimal number up to 65535.

Writing an IPv6 address: groups in lowercase hex without leading zeros, the first longest
run of two or more zero groups written `::`, and an IPv4-mapped address (`::ffff:` and
four octets) written with its IPv4 part dotted.

Main statements:
* `render_v4`: an IPv4 address is written as its four numbers joined by dots.
* `render_subset`: every address is written with hex digits, dots and colons only.
* `render_ne_empty`: a valid address is written as non-empty text.
-/

namespace ApiGateway.Http

/-- An IP address. -/
inductive IpAddr where
  /-- An IPv4 address by its four octets. -/
  | v4 (a b c d : Nat)
  /-- An IPv6 address by its eight 16-bit groups. -/
  | v6 (groups : List Nat)
  deriving DecidableEq, Repr

/-- A peer's socket address. -/
structure SocketAddress where
  /-- The address. -/
  ip : IpAddr
  /-- The port. -/
  port : Nat
  deriving DecidableEq, Repr

namespace IpAddr

/-- The value of a digit character in a radix up to 16. -/
def digitValue (radix : Nat) (c : Char) : Option Nat :=
  let v :=
    if '0' ≤ c && c ≤ '9' then some (c.toNat - '0'.toNat)
    else if 'a' ≤ c && c ≤ 'f' then some (c.toNat - 'a'.toNat + 10)
    else if 'A' ≤ c && c ≤ 'F' then some (c.toNat - 'A'.toNat + 10)
    else none
  match v with
  | some d => if d < radix then some d else none
  | none => none

/-- Reads every leading digit of the radix: the value, the digit count and the rest. -/
def takeDigits (radix : Nat) : List Char → Nat → Nat → Nat × Nat × List Char
  | [], v, n => (v, n, [])
  | c :: cs, v, n =>
    match digitValue radix c with
    | some d => takeDigits radix cs (v * radix + d) (n + 1)
    | none => (v, n, c :: cs)

/-- Reads a number of the radix: all leading digits, at least one, at most `maxDigits`
when given, a value at most `bound`, and no leading zero unless `zeroPrefix`. -/
def readNumber (radix : Nat) (maxDigits : Option Nat) (zeroPrefix : Bool) (bound : Nat)
    (cs : List Char) : Option (Nat × List Char) :=
  let (v, n, rest) := takeDigits radix cs 0 0
  if n == 0 then none
  else if maxDigits.any (fun m => decide (m < n)) then none
  else if bound < v then none
  else if !zeroPrefix && cs.head? == some '0' && 1 < n then none
  else some (v, rest)

/-- Reads `sep` and then `inner`, except before the first item where no separator is read. -/
def withSeparator (sep : Char) (first : Bool) (inner : List Char → Option (Nat × List Char))
    (cs : List Char) : Option (Nat × List Char) :=
  if first then inner cs
  else match cs with
    | c :: rest => if c = sep then inner rest else none
    | [] => none

/-- Reads the four numbers of an IPv4 address. -/
def readV4Parts (cs : List Char) : Option (List Nat × List Char) := do
  let (a, cs) ← withSeparator '.' true (readNumber 10 (some 3) false 255) cs
  let (b, cs) ← withSeparator '.' false (readNumber 10 (some 3) false 255) cs
  let (c, cs) ← withSeparator '.' false (readNumber 10 (some 3) false 255) cs
  let (d, cs) ← withSeparator '.' false (readNumber 10 (some 3) false 255) cs
  pure ([a, b, c, d], cs)

/-- Reads up to `limit` colon-separated groups; an IPv4 address may take the place of the
last two groups when at least two places are left. Answers the groups, whether an IPv4
address ended them, and the rest. -/
def readGroups : Nat → Bool → List Char → List Nat × Bool × List Char
  | 0, _, cs => ([], false, cs)
  | limit + 1, first, cs =>
    let v4 :=
      if 0 < limit then
        match (if first then some cs else match cs with
            | ':' :: rest => some rest
            | _ => none) with
        | some cs' => readV4Parts cs'
        | none => none
      else none
    match v4 with
    | some ([a, b, c, d], rest) => ([a * 256 + b, c * 256 + d], true, rest)
    | _ =>
      match withSeparator ':' first (readNumber 16 (some 4) true 0xFFFF) cs with
      | some (g, rest) =>
        let (gs, v4End, rest') := readGroups limit false rest
        (g :: gs, v4End, rest')
      | none => ([], false, cs)

/-- Reads an IPv6 address. -/
def readV6 (cs : List Char) : Option (List Nat × List Char) :=
  let (head, headV4, rest) := readGroups 8 true cs
  if head.length == 8 then some (head, rest)
  else if headV4 then none
  else match rest with
    | ':' :: ':' :: rest' =>
      let (tail, _, rest'') := readGroups (8 - (head.length + 1)) true rest'
      some (head ++ List.replicate (8 - head.length - tail.length) 0 ++ tail, rest'')
    | _ => none

/-- Reads a `:port` suffix. -/
def readPort (cs : List Char) : Option (Nat × List Char) :=
  match cs with
  | ':' :: rest => readNumber 10 none true 0xFFFF rest
  | _ => none

end IpAddr

namespace SocketAddress

open IpAddr

/-- Reads `a.b.c.d:port`. -/
def readV4 (cs : List Char) : Option (SocketAddress × List Char) := do
  let (parts, cs) ← readV4Parts cs
  let (port, cs) ← readPort cs
  match parts with
  | [a, b, c, d] => pure (⟨.v4 a b c d, port⟩, cs)
  | _ => none

/-- Reads `[addr]:port` or `[addr%zone]:port`. -/
def readV6 (cs : List Char) : Option (SocketAddress × List Char) := do
  let cs ← match cs with
    | '[' :: rest => some rest
    | _ => none
  let (groups, cs) ← IpAddr.readV6 cs
  let cs := match cs with
    | '%' :: rest =>
      match readNumber 10 none true 0xFFFFFFFF rest with
      | some (_, rest') => rest'
      | none => cs
    | _ => cs
  let cs ← match cs with
    | ']' :: rest => some rest
    | _ => none
  let (port, cs) ← readPort cs
  pure (⟨.v6 groups, port⟩, cs)

/-- Reads a whole text as a socket address. -/
def read? (s : String) : Option SocketAddress :=
  let cs := s.toList
  let r := match readV4 cs with
    | some r => some r
    | none => readV6 cs
  match r with
  | some (a, []) => some a
  | _ => none

end SocketAddress

namespace IpAddr

/-- A number in lowercase hex without leading zeros. -/
def hex (n : Nat) : String :=
  String.ofList (Nat.toDigits 16 n)

/-- Groups joined by `:`. -/
def joinGroups (gs : List Nat) : String :=
  ":".intercalate (gs.map hex)

/-- The start and length of the first longest run of zero groups. -/
def longestZeroRun (gs : List Nat) : Nat × Nat :=
  let step := fun (acc : (Nat × Nat) × (Nat × Nat) × Nat) (g : Nat) =>
    let (best, cur, i) := acc
    if g == 0 then
      let cur' := if cur.2 == 0 then (i, 1) else (cur.1, cur.2 + 1)
      let best' := if best.2 < cur'.2 then cur' else best
      (best', cur', i + 1)
    else (best, (0, 0), i + 1)
  (gs.foldl step ((0, 0), (0, 0), 0)).1

/-- The address written as text. -/
def render : IpAddr → String
  | .v4 a b c d => s!"{a}.{b}.{c}.{d}"
  | .v6 gs =>
    match gs with
    | [0, 0, 0, 0, 0, 0xFFFF, x, y] => s!"::ffff:{x / 256}.{x % 256}.{y / 256}.{y % 256}"
    | _ =>
      let (start, len) := longestZeroRun gs
      if 1 < len then joinGroups (gs.take start) ++ "::" ++ joinGroups (gs.drop (start + len))
      else joinGroups gs

/-- An IPv4 address is written as its four numbers joined by dots. -/
theorem render_v4 (a b c d : Nat) :
    (IpAddr.v4 a b c d).render = toString a ++ "." ++ toString b ++ "." ++ toString c ++ "." ++
      toString d := by
  rfl

/-- The characters an address is written with: hex digits, dots and colons. -/
def writtenChars : List Char := "0123456789abcdef.:".toList

/-- A digit below sixteen is written with one of the address characters. -/
theorem digitChar_mem_writtenChars {d : Nat} (h : d < 16) : d.digitChar ∈ writtenChars := by
  have hall : ∀ d < 16, d.digitChar ∈ writtenChars := by decide
  exact hall d h

/-- Writing a number in a base up to sixteen adds only address characters to what was
written before. -/
theorem mem_toDigitsCore {b fuel n : Nat} {cs : List Char} {c : Char} (hb : 0 < b) (hb' : b ≤ 16)
    (h : c ∈ Nat.toDigitsCore b fuel n cs) : c ∈ cs ∨ c ∈ writtenChars := by
  induction fuel generalizing n cs with
  | zero => exact .inl h
  | succ fuel ih =>
    have hd : (n % b).digitChar ∈ writtenChars :=
      digitChar_mem_writtenChars (by have := Nat.mod_lt n hb; omega)
    simp only [Nat.toDigitsCore] at h
    split at h
    · rcases List.mem_cons.1 h with rfl | h
      · exact .inr hd
      · exact .inl h
    · rcases ih h with h | h
      · rcases List.mem_cons.1 h with rfl | h
        · exact .inr hd
        · exact .inl h
      · exact .inr h

/-- A number in a base up to sixteen is written with address characters. -/
theorem toDigits_subset {b : Nat} (n : Nat) (hb : 0 < b) (hb' : b ≤ 16) :
    Nat.toDigits b n ⊆ writtenChars := fun _ hc =>
  (mem_toDigitsCore hb hb' hc).resolve_left List.not_mem_nil

/-- Joining texts of address characters with a separator of address characters gives a text
of address characters. -/
theorem intercalate_subset {sep : List Char} {ls : List (List Char)} (hs : sep ⊆ writtenChars)
    (hl : ∀ l ∈ ls, l ⊆ writtenChars) : sep.intercalate ls ⊆ writtenChars := by
  induction ls with
  | nil => simp
  | cons l rest ih =>
    cases rest with
    | nil => simpa using hl l List.mem_cons_self
    | cons l' rest =>
      rw [List.intercalate_cons_cons, List.append_subset, List.append_subset]
      exact ⟨⟨hl l List.mem_cons_self, hs⟩, ih fun l hm => hl l (List.mem_cons_of_mem _ hm)⟩

/-- A decimal number is written with address characters. -/
theorem toString_subset (n : Nat) : (toString n).toList ⊆ writtenChars := by
  simpa using toDigits_subset n (by decide : 0 < 10) (by decide)

/-- A hexadecimal number is written with address characters. -/
theorem hex_subset (n : Nat) : (hex n).toList ⊆ writtenChars := by
  simpa [hex] using toDigits_subset n (by decide : 0 < 16) (by decide)

/-- IPv6 groups joined by colons are written with address characters. -/
theorem joinGroups_subset (gs : List Nat) : (joinGroups gs).toList ⊆ writtenChars := by
  simp only [joinGroups, String.toList_intercalate]
  apply intercalate_subset (by decide)
  simp only [List.map_map, List.mem_map]
  rintro _ ⟨n, -, rfl⟩
  exact hex_subset n

/-- An address is written with hex digits, dots and colons only. -/
theorem render_subset (ip : IpAddr) : ip.render.toList ⊆ writtenChars := by
  cases ip with
  | v4 a b c d =>
    rw [render_v4]
    simp only [String.toList_append, List.append_subset]
    exact ⟨⟨⟨⟨⟨⟨toString_subset a, by decide⟩, toString_subset b⟩, by decide⟩, toString_subset c⟩,
      by decide⟩, toString_subset d⟩
  | v6 gs =>
    simp only [render]
    split
    · -- an IPv4-mapped address: `::ffff:` and four decimal numbers between dots
      simp only [String.toList_append, List.append_subset, toString_subset, and_true]
      decide
    · split
      · simp only [String.toList_append, List.append_subset, joinGroups_subset, and_true,
          true_and]
        decide
      · exact joinGroups_subset _

/-- An address as the network carries it: four octets, or eight 16-bit groups. -/
def Valid : IpAddr → Prop
  | .v4 a b c d => a < 256 ∧ b < 256 ∧ c < 256 ∧ d < 256
  | .v6 gs => gs.length = 8 ∧ ∀ g ∈ gs, g < 65536

/-- Validity of an address is decided by its numbers' ranges. -/
instance : DecidablePred Valid := fun ip => by
  cases ip <;> unfold Valid <;> infer_instance

/-- At least one group gives a non-empty text. -/
theorem joinGroups_ne_empty {gs : List Nat} (h : gs ≠ []) : joinGroups gs ≠ "" := by
  obtain ⟨g, rest, rfl⟩ := List.exists_cons_of_ne_nil h
  intro he
  have hl := congrArg String.toList he
  cases rest <;> simp [joinGroups, String.toList_intercalate, hex, Nat.toDigits_ne_nil] at hl

/-- A valid address is never written as the empty text; only an IPv6 address without
groups, which the network never carries, would be. -/
theorem render_ne_empty {ip : IpAddr} (h : ip.Valid) : ip.render ≠ "" := by
  cases ip with
  | v4 a b c d =>
    rw [render_v4]
    intro he
    simpa using congrArg String.toList he
  | v6 gs =>
    have hgs : gs ≠ [] := by
      rintro rfl
      simp [Valid] at h
    simp only [render]
    split
    · intro he
      simpa using congrArg String.toList he
    · split
      · intro he
        simpa using congrArg String.toList he
      · exact joinGroups_ne_empty hgs

end IpAddr

end ApiGateway.Http
