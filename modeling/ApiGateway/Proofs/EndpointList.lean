import Mathlib
import ApiGateway.Proofs.SettingsText
import ApiGateway.Gateway.Forward

/-!
# Endpoint lists in settings text

An endpoint list is written as its items `address=weight` joined by `,`. Reading cuts the text
at the commas, trims the pieces, drops the empty ones and reads each item: the weight after the
first `=` (1 when there is none), and an address that splits at its last `:` into a non-empty
host and a 16-bit port.

Main statements:
* `endpointList_round_trip`: reading gives back every non-empty list whose endpoints can be
  written (`Endpoint.Writable`), so reading, writing and reading again is reading once; and a
  text is refused exactly when it names no item or one of its items is refused
  (`RefusedItem`).
* `readEndpoints_address`: an accepted address is a non-empty host, a `:` and a port numeral,
  and the target of a request is built from exactly that text.
* `readEndpoints_accepts_non_uri_authority`: the host is not checked, and the port numeral may
  carry a `+`, so an accepted address need not be a URI authority.

Implementation notes: `readEndpoint_eq` puts the item reader in the form weight first, address
second (`itemWeight`, `itemAddress`, `checkHostPort`), and `readEndpoint_eq_ok_iff` is the one
inversion lemma the rest cites.
-/

namespace ApiGateway

open ApiGateway.Text

namespace Config

/-! ## Reading one item -/

/-- The address part of an endpoint item: what stands before its first `=`, trimmed, or the
whole item. -/
def itemAddress (item : String) : String :=
  match splitFirst '=' item with
  | some (front, _) => trim front
  | none => item

/-- The weight of an endpoint item: the numeral after its first `=`, trimmed, or 1. -/
def itemWeight (item : String) : Except NumeralError Nat :=
  match splitFirst '=' item with
  | some (_, back) => readUnsigned maxU32 (trim back)
  | none => .ok 1

/-- An address splits at its last `:` into a non-empty host and a 16-bit port. -/
def HostPort (address : String) : Prop :=
  ∃ host port, splitLast ':' address = some (host, port) ∧ host ≠ "" ∧
    ∃ n, readUnsigned maxU16 port = .ok n

/-- The address check of an endpoint item: a non-empty host and a 16-bit port after the last
`:`. -/
def checkHostPort (address : String) (weight : Nat) : Except EntryError Endpoint :=
  match splitLast ':' address with
  | none => .error (.notHostPort address)
  | some (host, port) =>
    if host.isEmpty then .error (.emptyHost address)
    else match readUnsigned maxU16 port with
      | .ok _ => .ok ⟨address, weight⟩
      | .error e => .error (.invalidPort address e)

/-- Reading an item reads its weight, then checks its address. -/
theorem readEndpoint_eq (item : String) :
    readEndpoint item = match itemWeight item with
      | .error e => .error (.invalidWeight item e)
      | .ok w => checkHostPort (itemAddress item) w := by
  unfold readEndpoint itemWeight itemAddress checkHostPort
  -- each `rfl` waits for the address split: before it, the check for `rfl` unfolds the
  -- splitter on a free text
  cases splitFirst '=' item with
  | none =>
    dsimp only [bind, Except.bind, pure, Except.pure]
    cases splitLast ':' item with
    | none => rfl
    | some hp => rfl
  | some p =>
    obtain ⟨front, back⟩ := p
    dsimp only
    cases readUnsigned maxU32 (trim back) with
    | error err => rfl
    | ok w =>
      dsimp only [bind, Except.bind, pure, Except.pure]
      cases splitLast ':' (trim front) with
      | none => rfl
      | some hp => rfl

/-- An address passes the host and port check exactly when it is `HostPort`; the endpoint is
the address with the weight already read. -/
theorem checkHostPort_eq_ok_iff (address : String) (w : Nat) (e : Endpoint) :
    checkHostPort address w = .ok e ↔ e = ⟨address, w⟩ ∧ HostPort address := by
  unfold checkHostPort HostPort
  cases hl : splitLast ':' address with
  | none => simp
  | some hp =>
    obtain ⟨host, port⟩ := hp
    by_cases hh : host.isEmpty
    · simp [String.isEmpty_iff.1 hh]
    · have hne : host ≠ "" := fun h => by simp [h] at hh
      cases hport : readUnsigned maxU16 port with
      | error err => simp [hh, hport]
      | ok n => simp [hh, hne, hport, eq_comm]

/-- An item reads as an endpoint exactly when its weight reads, and its address, which the
endpoint keeps, splits into a non-empty host and a 16-bit port. -/
theorem readEndpoint_eq_ok_iff (item : String) (e : Endpoint) :
    readEndpoint item = .ok e ↔
      itemWeight item = .ok e.weight ∧ e.address = itemAddress item ∧
        HostPort (itemAddress item) := by
  rw [readEndpoint_eq]
  cases itemWeight item with
  | error err => simp
  | ok w =>
    rw [checkHostPort_eq_ok_iff]
    cases e
    simp [and_comm, and_assoc, eq_comm]

/-- A weight that reads fits in 32 bits. -/
theorem itemWeight_le {item : String} {w : Nat} (h : itemWeight item = .ok w) : w ≤ maxU32 := by
  unfold itemWeight at h
  split at h
  · exact ((readUnsigned_eq_ok_iff _ _ _).1 h).2
  · cases h
    decide

/-- The address of a list item holds no comma and no `=`, and is its own trimming. -/
theorem itemAddress_plain {item : String} (hcomma : ',' ∉ item.toList) (htrim : trim item = item) :
    ',' ∉ (itemAddress item).toList ∧ '=' ∉ (itemAddress item).toList ∧
      trim (itemAddress item) = itemAddress item := by
  unfold itemAddress
  cases hs : splitFirst '=' item with
  | none => exact ⟨hcomma, splitFirst_eq_none_iff.1 hs, htrim⟩
  | some p =>
    obtain ⟨front, back⟩ := p
    obtain ⟨hl, hnot⟩ := splitFirst_eq_some hs
    -- the trimmed front keeps only characters of the front, which stands before the `=`
    have hsub : ∀ c ∈ (trim front).toList, c ∈ front.toList := fun c hc =>
      trimList_subset _ (by rwa [trim_toList] at hc)
    refine ⟨fun hc => hcomma ?_, fun hc => hnot (hsub _ hc), trim_trim front⟩
    rw [hl]
    exact List.mem_append_left _ (hsub _ hc)

/-! ## Reading a list -/

/-- An item of a list holds no comma, is its own trimming and is not empty. -/
theorem mem_readList {raw item : String} (h : item ∈ readList raw) :
    ',' ∉ item.toList ∧ trim item = item ∧ item ≠ "" :=
  mem_trimmedPieces h

/-- A list reads when every item reads and there is at least one. -/
theorem readEndpoints_eq_ok_iff (raw : String) (eps : List Endpoint) :
    readEndpoints raw = .ok eps ↔ (readList raw).mapM readEndpoint = .ok eps ∧ eps ≠ [] := by
  unfold readEndpoints
  cases hm : (readList raw).mapM readEndpoint with
  | error err => simp [bind, Except.bind]
  | ok l =>
    cases l with
    | nil => simp [bind, Except.bind, throw, throwThe, MonadExceptOf.throw]
    | cons e rest =>
      simp only [bind, Except.bind, pure, Except.pure, List.isEmpty_cons, Bool.false_eq_true,
        if_false, Except.ok.injEq]
      constructor
      · rintro rfl
        exact ⟨rfl, List.cons_ne_nil e rest⟩
      · exact fun h => h.1

end Config

/-- An endpoint the list writer writes in a form the reader gives back: its address holds no
comma and no `=`, has no blank at either end and splits at its last `:` into a non-empty host
and a 16-bit port, and its weight is a 32-bit number. -/
structure Endpoint.Writable (e : Endpoint) : Prop where
  noComma : ',' ∉ e.address.toList
  noEquals : '=' ∉ e.address.toList
  trimmed : trim e.address = e.address
  hostPort : Config.HostPort e.address
  weight_le : e.weight ≤ maxU32

namespace Config

/-! ## Writing and reading back -/

/-- A written endpoint is its address, `=`, and its weight in decimal. -/
theorem renderEndpoint_toList (e : Endpoint) :
    (renderEndpoint e).toList = e.address.toList ++ '=' :: (toString e.weight).toList := by
  simp [renderEndpoint, String.toList_append]

/-- A `host:port` address is not empty: it holds at least its colon. -/
theorem toList_ne_nil_of_hostPort {a : String} (h : HostPort a) : a.toList ≠ [] := by
  obtain ⟨host, port, hsplit, -, -⟩ := h
  rw [(splitLast_eq_some hsplit).1]
  simp

/-- A written endpoint reads back as itself. -/
theorem readEndpoint_renderEndpoint {e : Endpoint} (h : e.Writable) :
    readEndpoint (renderEndpoint e) = .ok e := by
  have hsplit : splitFirst '=' (renderEndpoint e) = some (e.address, toString e.weight) := by
    rw [splitFirst_of_toList '=' (renderEndpoint_toList e) h.noEquals, String.ofList_toList,
      String.ofList_toList]
  have haddr : itemAddress (renderEndpoint e) = e.address := by
    rw [itemAddress, hsplit]
    exact h.trimmed
  have hweight : itemWeight (renderEndpoint e) = .ok e.weight := by
    rw [itemWeight, hsplit]
    dsimp only
    rw [trim_toString, readUnsigned_toString h.weight_le]
  rw [readEndpoint_eq_ok_iff, haddr, hweight]
  exact ⟨rfl, rfl, h.hostPort⟩

/-- A written item has no blank at either end: it starts with its address and ends with a
digit of its weight. -/
theorem trim_renderEndpoint {e : Endpoint} (h : e.Writable) :
    trim (renderEndpoint e) = renderEndpoint e := by
  have hdigits : (toString e.weight).toList ≠ [] := by
    rw [Nat.toString_eq_repr, Nat.toList_repr]
    exact Nat.toDigits_ne_nil
  exact trim_eq_self_of_toList_eq (renderEndpoint_toList e) (toList_ne_nil_of_hostPort h.hostPort)
    hdigits h.trimmed (trim_toString e.weight)

/-- Reading the items of a written list gives the written items. -/
theorem readList_renderEndpoints {eps : List Endpoint} (h : ∀ e ∈ eps, e.Writable) :
    readList (renderEndpoints eps) = eps.map renderEndpoint := by
  apply trimmedPieces_joinText
  intro s hs
  obtain ⟨e, he, rfl⟩ := List.mem_map.1 hs
  refine ⟨?_, trim_renderEndpoint (h e he), ?_⟩
  · -- the address holds no comma, and the weight is digits
    rw [renderEndpoint_toList]
    simp only [List.mem_append, List.mem_cons, not_or]
    refine ⟨(h e he).noComma, by decide, fun hc => ?_⟩
    rw [Nat.toString_eq_repr, Nat.toList_repr] at hc
    exact absurd (Nat.isDigit_of_mem_toDigits (by decide) (by decide) hc) (by decide)
  · exact ne_empty_of_toList_eq (renderEndpoint_toList e)

/-- A non-empty list of writable endpoints, written and read back, is itself. -/
theorem readEndpoints_renderEndpoints {eps : List Endpoint} (hne : eps ≠ [])
    (h : ∀ e ∈ eps, e.Writable) : readEndpoints (renderEndpoints eps) = .ok eps := by
  rw [readEndpoints_eq_ok_iff, readList_renderEndpoints h]
  exact ⟨mapM_map_eq_ok fun e he => readEndpoint_renderEndpoint (h e he), hne⟩

/-- Every endpoint read from a list can be written back. -/
theorem writable_of_readEndpoints {raw : String} {eps : List Endpoint}
    (h : readEndpoints raw = .ok eps) : ∀ e ∈ eps, e.Writable := by
  intro e he
  obtain ⟨item, hitem, hread⟩ := mem_of_mapM_eq_ok ((readEndpoints_eq_ok_iff raw eps).1 h).1 e he
  obtain ⟨hweight, haddr, hhostPort⟩ := (readEndpoint_eq_ok_iff item e).1 hread
  obtain ⟨hcomma, htrim, -⟩ := mem_readList hitem
  obtain ⟨hcomma', hequals, htrim'⟩ := itemAddress_plain hcomma htrim
  rw [← haddr] at hcomma' hequals htrim' hhostPort
  exact ⟨hcomma', hequals, htrim', hhostPort, itemWeight_le hweight⟩

/-! ## Refused texts -/

/-- Why an endpoint item is refused: a weight after its first `=` that is no 32-bit numeral,
or an address without `:`, with an empty host, or with a port that is no 16-bit numeral. -/
def RefusedItem (item : String) : Prop :=
  (∃ front back, splitFirst '=' item = some (front, back) ∧
      ∀ w, readUnsigned maxU32 (trim back) ≠ .ok w) ∨
    ':' ∉ (itemAddress item).toList ∨
    ∃ host port, splitLast ':' (itemAddress item) = some (host, port) ∧
      (host = "" ∨ ∀ n, readUnsigned maxU16 port ≠ .ok n)

/-- A computation in `Except` fails exactly when it has no result. -/
theorem exists_error_iff {ε α : Type} (r : Except ε α) : (∃ e, r = .error e) ↔ ¬∃ a, r = .ok a := by
  cases r <;> simp

/-- An item has no weight exactly when it has a `=` and the trimmed text after the first one
is no unsigned 32-bit numeral; without `=` the weight is 1. -/
theorem not_exists_itemWeight_iff (item : String) :
    (¬∃ w, itemWeight item = .ok w) ↔ ∃ front back, splitFirst '=' item = some (front, back) ∧
      ∀ w, readUnsigned maxU32 (trim back) ≠ .ok w := by
  unfold itemWeight
  cases splitFirst '=' item with
  | none => simp
  | some p =>
    obtain ⟨front, back⟩ := p
    simp

/-- An address fails the check exactly when it has no `:`, or the text before its last `:` is
empty, or the text after it is no unsigned 16-bit numeral. -/
theorem not_hostPort_iff (address : String) :
    ¬HostPort address ↔ ':' ∉ address.toList ∨ ∃ host port,
      splitLast ':' address = some (host, port) ∧ (host = "" ∨ ∀ n, readUnsigned maxU16 port ≠ .ok n) := by
  unfold HostPort
  cases hl : splitLast ':' address with
  | none => simp [splitLast_eq_none_iff.1 hl]
  | some p =>
    obtain ⟨host, port⟩ := p
    have hcolon : ':' ∈ address.toList := by
      rw [(splitLast_eq_some hl).1]
      exact List.mem_append_right _ List.mem_cons_self
    simp only [Option.some.injEq, Prod.mk.injEq]
    constructor
    · intro h
      refine .inr ⟨host, port, ⟨rfl, rfl⟩, ?_⟩
      by_cases hh : host = ""
      · exact .inl hh
      · exact .inr fun n hn => h ⟨host, port, ⟨rfl, rfl⟩, hh, n, hn⟩
    · rintro (hc | ⟨h', p', ⟨rfl, rfl⟩, hbad⟩) ⟨h'', p'', ⟨rfl, rfl⟩, hne, n, hn⟩
      · exact hc hcolon
      · rcases hbad with hh | hp
        · exact hne hh
        · exact hp n hn

/-- An item is refused exactly when `RefusedItem` names a reason. -/
theorem readEndpoint_eq_error_iff (item : String) :
    (∃ err, readEndpoint item = .error err) ↔ RefusedItem item := by
  have hok : (∃ e, readEndpoint item = .ok e) ↔
      (∃ w, itemWeight item = .ok w) ∧ HostPort (itemAddress item) := by
    simp only [readEndpoint_eq_ok_iff]
    exact ⟨fun ⟨e, hw, _, hp⟩ => ⟨⟨e.weight, hw⟩, hp⟩,
      fun ⟨⟨w, hw⟩, hp⟩ => ⟨⟨itemAddress item, w⟩, hw, rfl, hp⟩⟩
  rw [exists_error_iff, hok, not_and_or, not_exists_itemWeight_iff, not_hostPort_iff, RefusedItem]

/-- A text is refused exactly when it names no item or one of its items is refused. -/
theorem readEndpoints_eq_error_iff (raw : String) :
    (∃ err, readEndpoints raw = .error err) ↔
      readList raw = [] ∨ ∃ item ∈ readList raw, RefusedItem item := by
  have hitems : (∃ err, (readList raw).mapM readEndpoint = .error err) ↔
      ∃ item ∈ readList raw, RefusedItem item := by
    rw [mapM_eq_error_iff]
    exact exists_congr fun item => and_congr_right fun _ => readEndpoint_eq_error_iff item
  rw [exists_error_iff]
  simp only [readEndpoints_eq_ok_iff]
  cases hm : (readList raw).mapM readEndpoint with
  | error err =>
    have := hitems.1 ⟨err, hm⟩
    simp [this]
  | ok l =>
    -- every item reads, so only an empty list is refused
    have hnone : ¬∃ item ∈ readList raw, RefusedItem item := fun hr => by
      obtain ⟨err, herr⟩ := hitems.2 hr
      rw [hm] at herr
      cases herr
    have hlen := length_of_mapM_eq_ok hm
    simp only [Except.ok.injEq, exists_eq_left', hnone, or_false, not_not]
    rw [← List.length_eq_zero_iff (l := readList raw), ← hlen, List.length_eq_zero_iff]

/-! ## Main statements -/

/-- Writing and reading endpoint lists: a non-empty list of writable endpoints is read back as
itself, with its order, repeats and zero weights; so writing what was read and reading again
gives what was read; and a text is refused exactly when it names no item or one of its items
has a weight that is no 32-bit numeral, an address without `:`, an empty host, or a port that is
no 16-bit numeral. -/
theorem endpointList_round_trip :
    (∀ eps : List Endpoint, eps ≠ [] → (∀ e ∈ eps, e.Writable) →
        readEndpoints (renderEndpoints eps) = .ok eps) ∧
      (∀ raw eps, readEndpoints raw = .ok eps →
        readEndpoints (renderEndpoints eps) = readEndpoints raw) ∧
      ∀ raw, (∃ err, readEndpoints raw = .error err) ↔
        readList raw = [] ∨ ∃ item ∈ readList raw, RefusedItem item := by
  refine ⟨fun eps hne h => readEndpoints_renderEndpoints hne h, fun raw eps h => ?_,
    readEndpoints_eq_error_iff⟩
  rw [h]
  exact readEndpoints_renderEndpoints (readEndpoints_ne_nil raw eps h)
    (writable_of_readEndpoints h)

/-! ## Accepted addresses -/

/-- Every address an endpoint list accepts is a non-empty host without commas and `=`, a `:`,
and a port of an optional `+` and decimal digits of value at most 65535; a request's target is
`http://`, exactly this text, and the request's path and query. Nothing else of the host is
checked. -/
theorem readEndpoints_address {raw : String} {eps : List Endpoint} {e : Endpoint}
    (h : readEndpoints raw = .ok eps) (he : e ∈ eps) (u : Http.Uri) :
    ∃ host port, e.address = host ++ ":" ++ port ∧ host ≠ "" ∧
      ',' ∉ host.toList ∧ '=' ∉ host.toList ∧ ':' ∉ port.toList ∧
      (∃ n ≤ maxU16, UnsignedNumeral port n) ∧
      Gateway.targetUrl e.address u =
        "http://" ++ host ++ ":" ++ port ++ u.pathAndQuery?.getD "/" := by
  have hw := writable_of_readEndpoints h e he
  obtain ⟨host, port, hsplit, hhost, n, hn⟩ := hw.hostPort
  obtain ⟨hl, hnot⟩ := splitLast_eq_some hsplit
  have haddr : e.address = host ++ ":" ++ port := by
    apply String.toList_inj.1
    simp [hl, String.toList_append]
  obtain ⟨hnum, hle⟩ := (readUnsigned_eq_ok_iff _ _ _).1 hn
  -- the host is the part of the address before its last `:`
  have hsub : ∀ c ∈ host.toList, c ∈ e.address.toList := fun c hc => by
    rw [hl]
    exact List.mem_append_left _ hc
  refine ⟨host, port, haddr, hhost, fun hc => hw.noComma (hsub _ hc),
    fun hc => hw.noEquals (hsub _ hc), hnot, ⟨n, hle, hnum⟩, ?_⟩
  rw [Gateway.targetUrl, haddr]
  simp only [String.append_assoc]

/-- The list `h:+80` is accepted: the port reader takes a leading `+`. -/
theorem readEndpoints_signedPort : readEndpoints "h:+80" = .ok [⟨"h:+80", 1⟩] := by
  decide +kernel

/-- `readEndpoints_address` at the list `h:+80`: the endpoint is the address `h:+80` with
weight 1, the host `h` and the port `+80`, which is an optional `+` and digits. -/
theorem readEndpoints_address_signedPort :
    readEndpoints "h:+80" = .ok [⟨"h:+80", 1⟩] ∧
      (⟨"h:+80", 1⟩ : Endpoint) ∈ [(⟨"h:+80", 1⟩ : Endpoint)] ∧
      ∃ host port, "h:+80" = host ++ ":" ++ port ∧ host ≠ "" ∧
        ',' ∉ host.toList ∧ '=' ∉ host.toList ∧ ':' ∉ port.toList ∧
        (∃ n ≤ maxU16, UnsignedNumeral port n) ∧
        Gateway.targetUrl "h:+80" ⟨none, [], [47]⟩ =
          "http://" ++ host ++ ":" ++ port ++ (Http.Uri.pathAndQuery? ⟨none, [], [47]⟩).getD "/" :=
  ⟨readEndpoints_signedPort, List.mem_singleton_self _,
    readEndpoints_address readEndpoints_signedPort (List.mem_singleton_self _) ⟨none, [], [47]⟩⟩

/-- The characters a URI host may hold: letters, digits and the other unreserved marks,
sub-delimiters and `%` in a registered name or an IPv4 address, and `:` and brackets in an IP
literal. -/
def isUriHostChar (c : Char) : Bool :=
  (c.isAlphanum && c.toNat < 128) || "-._~!$&'()*+,;=%:[]".toList.contains c

/-- A port of digits holds no `:`, so it is what follows the last `:`. -/
theorem splitLast_of_digit_port {s host port : String} (h : s = host ++ ":" ++ port)
    (hdigits : ∀ c ∈ port.toList, c.isDigit) : splitLast ':' s = some (host, port) := by
  have hcolon : ':' ∉ port.toList := fun hc => absurd (hdigits ':' hc) (by decide)
  rw [splitLast_of_toList ':' (a := host.toList) (b := port.toList)
    (by rw [h]; simp [String.toList_append]) hcolon, String.ofList_toList, String.ofList_toList]

/-- The list `a b:80` is accepted: the host is not checked against URI syntax. -/
theorem readEndpoints_spacedHost : readEndpoints "a b:80" = .ok [⟨"a b:80", 1⟩] := by
  decide +kernel

/-- The lists `a b:80` and `h:+80` are accepted, though neither is a URI authority: a host
with a blank, and a port that is no string of digits. -/
theorem readEndpoints_accepts_non_uri_authority :
    readEndpoints "a b:80" = .ok [⟨"a b:80", 1⟩] ∧ readEndpoints "h:+80" = .ok [⟨"h:+80", 1⟩] ∧
      (¬∃ host port, "a b:80" = host ++ ":" ++ port ∧ (∀ c ∈ host.toList, isUriHostChar c) ∧
        port ≠ "" ∧ ∀ c ∈ port.toList, c.isDigit) ∧
      ¬∃ host port, "h:+80" = host ++ ":" ++ port ∧ (∀ c ∈ host.toList, isUriHostChar c) ∧
        port ≠ "" ∧ ∀ c ∈ port.toList, c.isDigit := by
  refine ⟨readEndpoints_spacedHost, readEndpoints_signedPort, ?_, ?_⟩
  · rintro ⟨host, port, heq, hhost, -, hdigits⟩
    -- the only split with a port of digits keeps the blank in the host
    have hsplit := splitLast_of_digit_port heq hdigits
    have hlast : splitLast ':' "a b:80" = some ("a b", "80") := by decide +kernel
    rw [hlast] at hsplit
    have hh : host = "a b" := (Prod.mk.inj (Option.some.inj hsplit)).1.symm
    subst hh
    exact absurd (hhost ' ' (by decide)) (by decide)
  · rintro ⟨host, port, heq, -, -, hdigits⟩
    have hsplit := splitLast_of_digit_port heq hdigits
    have hlast : splitLast ':' "h:+80" = some ("h", "+80") := by decide +kernel
    rw [hlast] at hsplit
    have hport : port = "+80" := (Prod.mk.inj (Option.some.inj hsplit)).2.symm
    subst hport
    exact absurd (hdigits '+' (by decide)) (by decide)

end Config

end ApiGateway
