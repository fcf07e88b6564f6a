/-!
# Request targets

A request target is read in one of four forms: the origin form (`/path?query`), the
asterisk `*`, the absolute form (`scheme://authority/path?query`) and the authority form
(`host:port`). The reading works on the UTF-8 bytes of the target:

* The path may hold the unreserved and sub-delimiter marks, `:`, `@`, `/`, `%`, the
  quote and braces, and any byte above ASCII; a query may also hold `?` and the other
  visible ASCII marks except the quote, `#`, `<` and `>`. A `#` ends the target: the
  fragment is dropped.
* An authority holds only URI characters, at most one port colon outside brackets,
  balanced brackets, and `%` only inside its user part.
* A scheme is `http://` or `https://` in any case, or up to 64 letters, digits, `+`,
  `-` and `.` followed by `://`.
-/

namespace ApiGateway.Http

/-- Why a request target could not be read. -/
inductive UriError where
  /-- The target is empty. -/
  | empty
  /-- The target is longer than 65534 bytes. -/
  | tooLong
  /-- A byte is not allowed where it stands. -/
  | invalidUriChar
  /-- The scheme is malformed. -/
  | invalidScheme
  /-- The authority is malformed. -/
  | invalidAuthority
  /-- The parts do not form any target form. -/
  | invalidFormat
  /-- The scheme is longer than 64 bytes. -/
  | schemeTooLong
  deriving DecidableEq, Repr

/-- The words that report a target error. -/
def UriError.message : UriError → String
  | .empty => "empty string"
  | .tooLong => "uri too long"
  | .invalidUriChar => "invalid uri character"
  | .invalidScheme => "invalid scheme"
  | .invalidAuthority => "invalid authority"
  | .invalidFormat => "invalid format"
  | .schemeTooLong => "scheme too long"

/-- A scheme of an absolute-form target. -/
inductive Scheme where
  | http
  | https
  | other (name : List UInt8)
  deriving DecidableEq, Repr

/-- A read request target. -/
structure Uri where
  /-- The scheme, for the absolute form. -/
  scheme : Option Scheme
  /-- The authority bytes; empty for the origin and asterisk forms. -/
  authority : List UInt8
  /-- The path and query bytes, the fragment dropped; empty for the authority form. -/
  pathAndQuery : List UInt8
  deriving DecidableEq, Repr

namespace Uri

/-- Whether a byte may stand in an authority (a URI character other than `%`). -/
def isUriByte (b : UInt8) : Bool :=
  let n := b.toNat
  n == 33 || (35 ≤ n && n ≤ 36) || (38 ≤ n && n ≤ 59) || n == 61 ||
    (63 ≤ n && n ≤ 91) || n == 93 || n == 95 || (97 ≤ n && n ≤ 122) || n == 126

/-- Whether a byte may stand in a scheme name. -/
def isSchemeByte (b : UInt8) : Bool :=
  let n := b.toNat
  n == 43 || n == 45 || n == 46 || (48 ≤ n && n ≤ 57) || (65 ≤ n && n ≤ 90) ||
    (97 ≤ n && n ≤ 122)

/-- Whether a byte may stand in a path. -/
def isPathByte (b : UInt8) : Bool :=
  let n := b.toNat
  n == 33 || (36 ≤ n && n ≤ 59) || n == 61 || (64 ≤ n && n ≤ 95) ||
    (97 ≤ n && n ≤ 122) || n == 124 || n == 126 || 127 ≤ n || n == 34 || n == 123 || n == 125

/-- Whether a byte may stand in a query. -/
def isQueryByte (b : UInt8) : Bool :=
  let n := b.toNat
  n == 33 || (36 ≤ n && n ≤ 59) || n == 61 || (63 ≤ n && n ≤ 126) || 127 ≤ n

/-- The bytes of an ASCII text. -/
def ascii (s : String) : List UInt8 := s.toUTF8.toList

/-- The running state of the authority scan. -/
structure AuthorityScan where
  colons : Nat := 0
  openBracket : Bool := false
  closeBracket : Bool := false
  percent : Bool := false
  atSign : Option Nat := none

/-- Scans an authority up to the first `/`, `?` or `#`, answering the end position. -/
def scanAuthority (bs : List UInt8) : Except UriError Nat :=
  go bs 0 {}
where
  /-- Scans from position `i` with the state gathered so far. -/
  go : List UInt8 → Nat → AuthorityScan → Except UriError Nat
    | [], i, st => finish i st
    | b :: rest, i, st =>
      let n := b.toNat
      if n == 47 || n == 63 || n == 35 then finish i st
      else if n == 58 then
        if 8 ≤ st.colons then .error .invalidAuthority
        else go rest (i + 1) { st with colons := st.colons + 1 }
      else if n == 91 then
        if st.percent || st.openBracket then .error .invalidAuthority
        else go rest (i + 1) { st with openBracket := true }
      else if n == 93 then
        if !st.openBracket || st.closeBracket then .error .invalidAuthority
        else go rest (i + 1) { st with closeBracket := true, colons := 0, percent := false }
      else if n == 64 then
        go rest (i + 1) { st with atSign := some i, colons := 0, percent := false }
      else if n == 37 then go rest (i + 1) { st with percent := true }
      else if isUriByte b then go rest (i + 1) st
      else .error .invalidUriChar
  /-- Checks the gathered state at the end position `e`. -/
  finish (e : Nat) (st : AuthorityScan) : Except UriError Nat :=
    if st.openBracket != st.closeBracket then .error .invalidAuthority
    else if 1 < st.colons then .error .invalidAuthority
    else if 0 < e && st.atSign == some (e - 1) then .error .invalidAuthority
    else if st.percent then .error .invalidAuthority
    else .ok e

/-- Checks a path-and-query part and drops its fragment. -/
def readPathAndQuery (bs : List UInt8) : Except UriError (List UInt8) :=
  path bs []
where
  /-- Scans path bytes, collecting them in reverse. -/
  path : List UInt8 → List UInt8 → Except UriError (List UInt8)
    | [], acc => .ok acc.reverse
    | b :: rest, acc =>
      if b.toNat == 63 then query rest (b :: acc)
      else if b.toNat == 35 then .ok acc.reverse
      else if isPathByte b then path rest (b :: acc)
      else .error .invalidUriChar
  /-- Scans query bytes, collecting them in reverse. -/
  query : List UInt8 → List UInt8 → Except UriError (List UInt8)
    | [], acc => .ok acc.reverse
    | b :: rest, acc =>
      if b.toNat == 35 then .ok acc.reverse
      else if isQueryByte b then query rest (b :: acc)
      else .error .invalidUriChar

/-- Whether two byte strings agree ignoring ASCII case. -/
def eqIgnoreCase (a b : List UInt8) : Bool :=
  a.length == b.length && (a.zip b).all fun p =>
    (Char.ofNat p.1.toNat).toLower == (Char.ofNat p.2.toNat).toLower

/-- Finds a scheme name ended by `://`: the position of its colon. -/
def schemeEnd (bs : List UInt8) : Except UriError (Option Nat) :=
  if bs.length ≤ 3 then .ok none else go bs 0
where
  /-- Walks scheme bytes from position `i`. -/
  go : List UInt8 → Nat → Except UriError (Option Nat)
    | [], _ => .ok none
    | b :: rest, i =>
      if b.toNat == 58 then
        if rest.take 2 == ascii "//" then
          if 64 < i then .error .schemeTooLong else .ok (some i)
        else .ok none
      else if isSchemeByte b then go rest (i + 1)
      else .ok none

/-- Reads the absolute and authority forms. -/
def readFull (bs : List UInt8) : Except UriError Uri := do
  let (scheme, rest) ←
    if 7 ≤ bs.length && eqIgnoreCase (bs.take 7) (ascii "http://") then
      pure (some Scheme.http, bs.drop 7)
    else if 8 ≤ bs.length && eqIgnoreCase (bs.take 8) (ascii "https://") then
      pure (some Scheme.https, bs.drop 8)
    else match ← schemeEnd bs with
      | some n => pure (some (Scheme.other (bs.take n)), bs.drop (n + 3))
      | none => pure (none, bs)
  let e ← scanAuthority rest
  match scheme with
  | none =>
    if e != rest.length then throw .invalidFormat
    else pure ⟨none, rest, []⟩
  | some s =>
    if e == 0 then throw .invalidFormat
    else do
      let pq ← readPathAndQuery (rest.drop e)
      pure ⟨some s, rest.take e, pq⟩

/-- Reads a request target from its bytes. -/
def readBytes (bs : List UInt8) : Except UriError Uri :=
  if 65534 < bs.length then .error .tooLong
  else match bs with
    | [] => .error .empty
    | [b] =>
      if b.toNat == 47 || b.toNat == 42 then .ok ⟨none, [], [b]⟩
      else match scanAuthority [b] with
        | .ok 1 => .ok ⟨none, [b], []⟩
        | .ok _ => .error .invalidUriChar
        | .error e => .error e
    | b :: rest =>
      if b.toNat == 47 then
        match readPathAndQuery (b :: rest) with
        | .ok pq => .ok ⟨none, [], pq⟩
        | .error e => .error e
      else readFull (b :: rest)

/-- Reads a request target from its text. -/
def read (s : String) : Except UriError Uri :=
  readBytes s.toUTF8.toList

/-- The bytes as text; the target's bytes came from text and are split at ASCII bytes. -/
def bytesText (bs : List UInt8) : String :=
  (String.fromUTF8? (ByteArray.mk bs.toArray)).getD ""

/-- The path: the part before the query, `/` when that is empty, and empty for the
authority form. -/
def path (u : Uri) : String :=
  if u.pathAndQuery.isEmpty && u.scheme.isNone then ""
  else
    let p := u.pathAndQuery.takeWhile (·.toNat != 63)
    if p.isEmpty then "/" else bytesText p

/-- The path and query, `/` when empty; absent for the authority form. -/
def pathAndQuery? (u : Uri) : Option String :=
  if u.scheme.isSome || u.authority.isEmpty then
    some (if u.pathAndQuery.isEmpty then "/" else bytesText u.pathAndQuery)
  else none

-- The single `/` reads as the origin-form target with path `/`.
example : readBytes [47] = .ok ⟨none, [], [47]⟩ := by rfl

end Uri

end ApiGateway.Http
