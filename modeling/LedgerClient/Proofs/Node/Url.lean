import LedgerClient.Discovery.ChannelConfig
import LedgerClient.Proofs.Discovery.Membership
import Mathlib.Data.List.DropRight
import Mathlib.Data.List.Infix

/-!
# Urls and their spellings

A url is a protocol, a separator and an address. The first separator ends the protocol and the
last colon of the rest starts the port, so whatever stands between them is the host, with its
colons, slashes and separators. The protocol may be written in any letter case and with white
space around it, and the port with leading zeros or a plus sign; the url of the endpoint that was
read is the one spelling without any of this.

## Main results

* `splitFirst?_eq_some_iff`: a text is split at the first separator.
* `Text.keyword_eq_iff`, `Protocol.parse_eq_ok_iff`: which texts spell a keyword, or a protocol.
* `Endpoint.parse_eq_ok_iff`: which texts are urls, and of which endpoint.
* `Endpoint.url_round_trip`: urls and addresses are read back as what they were made of.
-/

namespace LedgerClient

/-! ### The first separator -/

/-- If the separator starts with a character that it does not contain again, then no occurrence
reaches from the text in front of a separator into this separator. -/
theorem not_prefix_append {c : Char} {tail before after : List Char} (hc : c ∉ tail)
    (hbefore : ¬ c :: tail <:+: before) (hne : before ≠ []) :
    ¬ c :: tail <+: before ++ (c :: tail ++ after) := by
  intro hprefix
  obtain h | ⟨overlap, h⟩ := List.prefix_or_prefix_of_prefix hprefix (List.prefix_append before _)
  · exact hbefore h.isInfix
  · have hoverlap : overlap <+: c :: tail ++ after := by
      rwa [← List.prefix_append_right_inj before, h]
    cases overlap with
    | nil => exact hbefore (by simp [← h])
    | cons d overlap =>
        -- The overlap starts with the first character, inside of the separator.
        obtain rfl : d = c := (List.cons_prefix_cons.mp hoverlap).1
        cases before with
        | nil => exact hne rfl
        | cons b before =>
            obtain ⟨-, rfl⟩ := List.cons.inj h
            exact hc (by simp)

theorem splitFirst?_append {c : Char} {tail before : List Char} (hc : c ∉ tail)
    (hbefore : ¬ c :: tail <:+: before) (after : List Char) :
    splitFirst? (c :: tail) (before ++ (c :: tail ++ after)) = some (before, after) := by
  induction before with
  | nil => simp [splitFirst?, List.isPrefixOf_iff_prefix]
  | cons b before ih =>
      have hno : ¬ c :: tail <+: b :: (before ++ (c :: tail ++ after)) :=
        not_prefix_append hc hbefore (List.cons_ne_nil b before)
      rw [List.cons_append, splitFirst?, if_neg (by rwa [List.isPrefixOf_iff_prefix]),
        ih fun h => hbefore (List.infix_cons h)]
      rfl

/-- A text is split at the first separator: in front of it there is none. -/
theorem splitFirst?_eq_some_iff {c : Char} {tail text before after : List Char} (hc : c ∉ tail) :
    splitFirst? (c :: tail) text = some (before, after) ↔
      text = before ++ (c :: tail ++ after) ∧ ¬ c :: tail <:+: before := by
  constructor
  · intro h
    induction text generalizing before with
    | nil => simp [splitFirst?] at h
    | cons d text ih =>
        rw [splitFirst?] at h
        split at h
        · next hprefix =>
          obtain ⟨rfl, rfl⟩ := Prod.mk.inj (Option.some.inj h)
          obtain ⟨rest, hrest⟩ := List.isPrefixOf_iff_prefix.mp hprefix
          refine ⟨?_, by simp⟩
          rw [← hrest, List.drop_left, List.nil_append]
        · next hprefix =>
          obtain ⟨⟨front, back⟩, hsplit, h⟩ := Option.map_eq_some_iff.mp h
          obtain ⟨rfl, rfl⟩ := Prod.mk.inj h
          obtain ⟨rfl, hfront⟩ := ih hsplit
          refine ⟨rfl, fun hinfix => ?_⟩
          obtain hstart | hlater := List.infix_cons_iff.mp hinfix
          · exact hprefix (List.isPrefixOf_iff_prefix.mpr (hstart.trans (List.prefix_append _ _)))
          · exact hfront hlater
  · rintro ⟨rfl, hbefore⟩
    exact splitFirst?_append hc hbefore after

/-! ### Keywords -/

namespace Text

/-- A text spells a keyword if it is the keyword in any letter case, with white space around
it. -/
def Spells (s keyword : String) : Prop :=
  ∃ before word after : List Char, s.toList = before ++ word ++ after ∧
    (∀ c ∈ before, isBlank c = true) ∧ (∀ c ∈ after, isBlank c = true) ∧
    word.map Char.toLower = keyword.toList

/-- Trimming takes white space off both ends. -/
theorem exists_trimChars (cs : List Char) : ∃ before after,
    cs = before ++ trimChars cs ++ after ∧ (∀ c ∈ before, isBlank c = true) ∧
      ∀ c ∈ after, isBlank c = true := by
  refine ⟨cs.takeWhile isBlank, (cs.dropWhile isBlank).rtakeWhile isBlank, ?_,
    fun _ => List.mem_takeWhile_imp, fun _ => List.mem_rtakeWhile_imp⟩
  have hend : trimChars cs ++ (cs.dropWhile isBlank).rtakeWhile isBlank = cs.dropWhile isBlank :=
    List.rdropWhile_append_rtakeWhile
  rw [List.append_assoc, hend, List.takeWhile_append_dropWhile]

/-- A word without white space in it is what remains of it with white space around. -/
theorem trimChars_append {before word after : List Char} (hbefore : ∀ c ∈ before, isBlank c = true)
    (hafter : ∀ c ∈ after, isBlank c = true) (hword : ∀ c ∈ word, ¬ isBlank c = true) :
    trimChars (before ++ word ++ after) = word := by
  rw [trimChars, trimStartChars, trimEndChars, List.append_assoc,
    List.dropWhile_append_of_pos hbefore]
  cases word with
  | nil => rw [List.nil_append, List.dropWhile_eq_nil_iff.mpr hafter]; rfl
  | cons c word =>
      have hlast : (c :: word).reverse.dropWhile isBlank = (c :: word).reverse := by
        refine List.dropWhile_eq_self_iff.mpr fun hlength => hword _ ?_
        exact List.mem_reverse.mp (List.getElem_mem hlength)
      rw [List.cons_append, List.dropWhile_cons_of_neg (hword c List.mem_cons_self),
        ← List.cons_append, List.reverse_append,
        List.dropWhile_append_of_pos fun d hd => hafter d (List.mem_reverse.mp hd), hlast,
        List.reverse_reverse]

/-- White space has no lower case. -/
theorem toLower_of_isBlank {c : Char} (h : isBlank c = true) : c.toLower = c := by
  refine dif_neg ?_
  rintro ⟨hA, hZ⟩
  have hlow : 65 ≤ c.toNat := hA
  have hhigh : c.toNat ≤ 90 := hZ
  simp [isBlank] at h
  omega

/-- A text is read as a keyword if it spells the keyword. -/
theorem keyword_eq_iff {s k : String} (hk : ∀ c ∈ k.toList, ¬ isBlank c = true) :
    keyword s = k ↔ Spells s k := by
  rw [← String.toList_inj, keyword, lower, trim, String.toList_ofList, String.toList_ofList]
  constructor
  · intro h
    obtain ⟨before, after, hs, hbefore, hafter⟩ := exists_trimChars s.toList
    exact ⟨before, trimChars s.toList, after, hs, hbefore, hafter, h⟩
  · rintro ⟨before, word, after, hs, hbefore, hafter, hword⟩
    rw [hs, trimChars_append hbefore hafter, hword]
    intro c hc hblank
    have hlower : c.toLower ∈ k.toList := hword ▸ List.mem_map_of_mem hc
    exact hk c.toLower hlower (by rwa [toLower_of_isBlank hblank])

end Text

/-! ### Protocols -/

namespace Protocol

theorem ofLabel?_eq_some_iff {s : String} {protocol : Protocol} :
    ofLabel? s = some protocol ↔ s = protocol.label := by
  constructor
  · intro h
    unfold ofLabel? at h
    split at h
    · cases h; rfl
    · cases h; rfl
    · cases h
  · rintro rfl
    cases protocol <;> rfl

/-- A protocol is read off the texts that spell its name. -/
theorem parse_eq_ok_iff {s : String} {protocol : Protocol} :
    parse s = .ok protocol ↔ Text.Spells s protocol.label := by
  have hlabel : ∀ c ∈ protocol.label.toList, ¬ Text.isBlank c = true := by
    cases protocol <;> simp [label, Text.isBlank]
  rw [← Text.keyword_eq_iff hlabel, ← ofLabel?_eq_some_iff, parse]
  cases ofLabel? (Text.keyword s) <;> simp

theorem spells_label (protocol : Protocol) : Text.Spells protocol.label protocol.label :=
  ⟨[], protocol.label.toList, [], by simp, by simp, by simp, by cases protocol <;> decide⟩

/-- There is no separator in what spells a protocol. -/
theorem not_infix_of_spells {scheme : String} {protocol : Protocol}
    (h : Text.Spells scheme protocol.label) : ¬ [':', '/', '/'] <:+: scheme.toList := by
  obtain ⟨before, word, after, hscheme, hbefore, hafter, hword⟩ := h
  intro hinfix
  have hcolon : ':' ∈ before ++ word ++ after := hscheme ▸ hinfix.subset List.mem_cons_self
  rw [List.mem_append, List.mem_append] at hcolon
  obtain (hcolon | hcolon) | hcolon := hcolon
  · exact absurd (hbefore _ hcolon) (by decide)
  · have hlower : Char.toLower ':' ∈ protocol.label.toList := hword ▸ List.mem_map_of_mem hcolon
    revert hlower
    cases protocol <;> decide
  · exact absurd (hafter _ hcolon) (by decide)

end Protocol

/-! ### Urls -/

namespace Endpoint

/-- The urls of an endpoint: its protocol in some spelling, the separator, and an address of its
host and port. The rest of the endpoint is not written into urls. -/
theorem parse_eq_ok_iff {text : String} {e : Endpoint} :
    parse text = .ok e ↔ ∃ scheme rest protocol host port, text = scheme ++ "://" ++ rest ∧
      Text.Spells scheme protocol.label ∧ Addresses rest host port ∧
      e = { protocol, host, port } := by
  have hcolon : ':' ∉ ['/', '/'] := by decide
  rw [parse]
  constructor
  · intro h
    split at h
    · cases h
    · next scheme rest hsplit =>
      obtain ⟨htext, -⟩ := (splitFirst?_eq_some_iff hcolon).mp hsplit
      obtain ⟨protocol, hprotocol, h⟩ := bind_eq_ok_iff.mp h
      split at h
      · next host port haddress =>
        refine ⟨String.ofList scheme, String.ofList rest, protocol, host, port, ?_,
          Protocol.parse_eq_ok_iff.mp hprotocol, ?_, (Except.ok.inj h).symm⟩
        · exact String.toList_injective (by simp [htext])
        · exact splitAddress?_eq_some_iff.mp (by rwa [String.toList_ofList])
      · cases h
  · rintro ⟨scheme, rest, protocol, host, port, rfl, hprotocol, haddress, rfl⟩
    have hsplit : splitFirst? [':', '/', '/'] (scheme ++ "://" ++ rest).toList =
        some (scheme.toList, rest.toList) := by
      rw [splitFirst?_eq_some_iff hcolon]
      exact ⟨by simp, Protocol.not_infix_of_spells hprotocol⟩
    rw [hsplit]
    refine bind_eq_ok_iff.mpr ⟨protocol, ?_, ?_⟩
    · rw [String.ofList_toList]
      exact Protocol.parse_eq_ok_iff.mpr hprotocol
    · rw [splitAddress?_eq_some_iff.mpr haddress]

/-- A text without a separator in its scheme is split right behind this scheme. -/
theorem parse_append_eq_ok_iff {scheme rest : String} {e : Endpoint}
    (hscheme : ¬ [':', '/', '/'] <:+: scheme.toList) :
    parse (scheme ++ "://" ++ rest) = .ok e ↔ ∃ protocol host port,
      Text.Spells scheme protocol.label ∧ splitEndpoint rest = .ok (host, port) ∧
        e = { protocol, host, port } := by
  simp only [parse_eq_ok_iff, splitEndpoint_eq_ok_iff]
  constructor
  · rintro ⟨scheme', rest', protocol, host, port, htext, hprotocol, haddress, rfl⟩
    have hchars : scheme.toList ++ ([':', '/', '/'] ++ rest.toList) =
        scheme'.toList ++ ([':', '/', '/'] ++ rest'.toList) := by
      simpa using congrArg String.toList htext
    have hsplit := splitFirst?_append (by decide) hscheme rest.toList
    rw [hchars, splitFirst?_append (by decide) (Protocol.not_infix_of_spells hprotocol)] at hsplit
    obtain ⟨hs, hr⟩ := Prod.mk.inj (Option.some.inj hsplit)
    rw [String.toList_inj] at hs hr
    subst hs hr
    exact ⟨protocol, host, port, hprotocol, haddress, rfl⟩
  · rintro ⟨protocol, host, port, hprotocol, haddress, rfl⟩
    exact ⟨scheme, rest, protocol, host, port, rfl, hprotocol, haddress, rfl⟩

/-- The url of an endpoint is read as its protocol, host and port. -/
theorem parse_url {e : Endpoint} (hhost : e.host ≠ "") :
    parse e.url = .ok { protocol := e.protocol, host := e.host, port := e.port } := by
  refine parse_eq_ok_iff.mpr ⟨e.protocol.label, s!"{e.host}:{e.port.toNat}", _, _, _, ?_,
    Protocol.spells_label _, addresses_toString hhost, rfl⟩
  simp only [url, String.append_assoc]
  rfl

/-- The url of an endpoint that was read is read as the same endpoint. -/
theorem parse_url_of_parse {text : String} {e : Endpoint} (h : parse text = .ok e) :
    parse e.url = .ok e := by
  obtain ⟨-, -, protocol, host, port, -, -, ⟨-, -, -, hhost, -⟩, rfl⟩ := parse_eq_ok_iff.mp h
  exact parse_url hhost

/-- Urls and addresses are read back as what they were made of. For a host that is not empty,
whatever is in it, the url of an endpoint is read as its protocol, host and port, and both its
address and the name of an orderer at this host and port are split into them. Whatever url an
endpoint was read from, its own url is read as the same endpoint. A text is a url exactly if its
scheme, which ends at the first separator, spells a protocol and the rest is split into a host
and a port; then these make up the endpoint. -/
theorem url_round_trip :
    (∀ e : Endpoint, e.host ≠ "" →
      parse e.url = .ok { protocol := e.protocol, host := e.host, port := e.port } ∧
      splitEndpoint e.address = .ok (e.host, e.port) ∧
      splitEndpoint (OrdererAddress.new e.host e.port).name = .ok (e.host, e.port)) ∧
    (∀ text e, parse text = .ok e → parse e.url = .ok e) ∧
    (∀ scheme rest e, ¬ [':', '/', '/'] <:+: scheme.toList →
      (parse (scheme ++ "://" ++ rest) = .ok e ↔ ∃ protocol host port,
        Text.Spells scheme protocol.label ∧ splitEndpoint rest = .ok (host, port) ∧
          e = { protocol, host, port })) ∧
    ∀ text e, parse text = .ok e ↔ ∃ scheme rest protocol host port,
      text = scheme ++ "://" ++ rest ∧ Text.Spells scheme protocol.label ∧
        splitEndpoint rest = .ok (host, port) ∧ e = { protocol, host, port } := by
  refine ⟨fun e hhost => ⟨parse_url hhost, ?_, ?_⟩, fun _ _ => parse_url_of_parse,
    fun _ _ _ => parse_append_eq_ok_iff, fun _ _ => ?_⟩
  · exact splitEndpoint_eq_ok_iff.mpr (addresses_toString hhost)
  · exact splitEndpoint_eq_ok_iff.mpr (addresses_toString hhost)
  · simp only [parse_eq_ok_iff, splitEndpoint_eq_ok_iff]

/-- A host may hold a separator of its own, and a port may be the last one. A url with capitals,
white space and a plus sign is read as the endpoint whose url has none of these. -/
theorem url_round_trip_odd_host :
    ("a://[::1]" ≠ "" ∧
        parse "grpc://a://[::1]:65535" =
          .ok { protocol := .grpc, host := "a://[::1]", port := 65535 } ∧
        splitEndpoint "a://[::1]:65535" = .ok ("a://[::1]", 65535)) ∧
      (parse " GRPCS\t://peer:+007" = .ok { protocol := .grpcs, host := "peer", port := 7 } ∧
        parse "grpcs://peer:7" = .ok { protocol := .grpcs, host := "peer", port := 7 }) ∧
      ¬ [':', '/', '/'] <:+: " GRPCS\t".toList ∧
        ∀ e, parse " GRPCS\t://peer:65536" ≠ .ok e := by
  obtain ⟨hurl, hagain, hsplit, -⟩ := url_round_trip
  have hhost : "a://[::1]" ≠ "" := by decide
  obtain ⟨hparse, haddress, -⟩ :=
    hurl { protocol := .grpc, host := "a://[::1]", port := 65535 } hhost
  have hscheme : ¬ [':', '/', '/'] <:+: " GRPCS\t".toList := by decide
  have hpeer : parse " GRPCS\t://peer:+007" =
      .ok { protocol := .grpcs, host := "peer", port := 7 } :=
    (hsplit " GRPCS\t" "peer:+007" _ hscheme).mpr
      ⟨.grpcs, "peer", 7, ⟨[' '], "GRPCS".toList, ['\t'], by decide, by simp [Text.isBlank],
        by simp [Text.isBlank], by decide⟩, by decide, rfl⟩
  refine ⟨⟨hhost, hparse, haddress⟩, ⟨hpeer, hagain _ _ hpeer⟩, hscheme, fun e he => ?_⟩
  obtain ⟨_, _, _, -, hport, -⟩ := (hsplit " GRPCS\t" "peer:65536" e hscheme).mp he
  have hlarge : splitEndpoint "peer:65536" =
      .error (.invalidPeer "peer:65536" "endpoint is not host:port") := by decide
  rw [hlarge] at hport
  cases hport

end Endpoint

end LedgerClient
