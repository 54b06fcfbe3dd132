import MatchPlane.Domain.Documents
import MatchPlane.Payments.Echoes

/-!
# Signed responses

Alipay signs a member of its response.  The adapter verifies the bytes after the first
place where the name of the member is written, and returns the member that the parser
keeps.  Both are the same value exactly if the first member that is written under the
name, at any depth, has the value of the last one at the top.
-/

namespace MatchPlane

open MatchPlane.Library

/-! ## The signed bytes -/

section Extract

variable {marker body : Bytes}

theorem findIdx_tails (hmarker : marker ≠ []) :
    (body.tails.findIdx? (marker.isPrefixOf ·)).map (fun position =>
      body.drop (position + marker.length)) = afterFirst marker body := by
  induction body with
  | nil =>
      have hnone : marker.isPrefixOf [] = false := by
        cases marker with
        | nil => exact absurd rfl hmarker
        | cons _ _ => rfl
      simp [afterFirst, List.findIdx?_cons, hnone]
  | cons byte rest ih =>
      rw [List.tails_cons, List.findIdx?_cons, afterFirst]
      by_cases hprefix : marker <+: byte :: rest
      · rw [if_pos (List.isPrefixOf_iff_prefix.mpr hprefix), if_pos hprefix, Option.map_some,
          zero_add]
      · rw [if_neg fun h => hprefix (List.isPrefixOf_iff_prefix.mp h), if_neg hprefix, ← ih,
          Option.map_map]
        congr 1
        funext position
        rw [Function.comp_apply, Nat.add_right_comm, List.drop_succ_cons]

variable [Codec]

/-- The bytes that are verified are the value after the first marker. -/
theorem extractSignedResponse_eq {key : String} {rest : Bytes} {length : Nat}
    (hrest : afterFirst (bytesOf s!"\"{key}\":") body = some rest)
    (hmarker : bytesOf s!"\"{key}\":" ≠ [])
    (hvalue : rest.dropWhile (· ∈ [0x20, 0x09, 0x0a, 0x0c, 0x0d]) ≠ [])
    (hfirst : Codec.firstValue (rest.dropWhile (· ∈ [0x20, 0x09, 0x0a, 0x0c, 0x0d])) =
      some (.ok length)) :
    extractSignedResponse body key =
      .ok ((rest.dropWhile (· ∈ [0x20, 0x09, 0x0a, 0x0c, 0x0d])).take length) := by
  rw [← findIdx_tails hmarker] at hrest
  obtain ⟨position, hposition, hdrop⟩ := Option.map_eq_some_iff.mp hrest
  unfold extractSignedResponse
  simp only [hposition, hdrop]
  rw [if_neg (by simpa using hvalue), hfirst]

theorem marker_of_extractSignedResponse {key : String} {signed : Bytes}
    (hmarker : bytesOf s!"\"{key}\":" ≠ []) (h : extractSignedResponse body key = .ok signed) :
    ∃ rest, afterFirst (bytesOf s!"\"{key}\":") body = some rest := by
  rw [← findIdx_tails hmarker]
  unfold extractSignedResponse at h
  cases hposition : body.tails.findIdx? ((bytesOf s!"\"{key}\":").isPrefixOf ·) with
  | none =>
      simp only [hposition] at h
      cases h
  | some position => exact ⟨_, rfl⟩

end Extract

/-! ## The value that is returned -/

/-- The parser reads a value as it is written, alone and with something after it. -/
structure Codec.Reads [Codec] (document : Document) : Prop where
  parse : Codec.parseJson document.text = .ok document.value
  first : ∀ rest, Ends rest →
    Codec.firstValue (document.text ++ rest) = some (.ok document.text.length)

theorem dropWhile_blank {before text after : Bytes} (hbefore : Blank before)
    (htext : ∃ byte ∈ text.head?, byte ∉ ([32, 9, 10, 12, 13] : Bytes)) :
    (before ++ text ++ after).dropWhile (· ∈ [0x20, 0x09, 0x0a, 0x0c, 0x0d]) =
      text ++ after := by
  have hblank : ∀ byte ∈ before,
      decide (byte ∈ ([0x20, 0x09, 0x0a, 0x0c, 0x0d] : Bytes)) = true := by
    intro byte hbyte
    have hfound := hbefore byte hbyte
    simp only [List.mem_cons, List.not_mem_nil, or_false, decide_eq_true_eq] at hfound ⊢
    tauto
  rw [List.append_assoc, List.dropWhile_append_of_pos hblank]
  obtain ⟨byte, hbyte, hother⟩ := htext
  cases text with
  | nil => cases hbyte
  | cons first rest =>
      cases hbyte
      rw [List.cons_append, List.dropWhile_cons_of_neg]
      simp only [List.mem_cons, List.not_mem_nil, or_false, decide_eq_true_eq] at hother ⊢
      tauto

namespace AlipayGateway

/-- The methods that the adapter calls. -/
def methods : List String := ["alipay.trade.close", "alipay.trade.refund", "alipay.trade.query"]

theorem plain_responseKey {method : String} (h : method ∈ methods) :
    Plain (bytesOf (responseKey method)) := by
  simp only [methods, List.mem_cons, List.not_mem_nil, or_false] at h
  rcases h with rfl | rfl | rfl
  · exact ⟨by decide +kernel, by decide +kernel, 97, by decide +kernel, by decide⟩
  · exact ⟨by decide +kernel, by decide +kernel, 97, by decide +kernel, by decide⟩
  · exact ⟨by decide +kernel, by decide +kernel, 97, by decide +kernel, by decide⟩

theorem marker_responseKey {method : String} (h : method ∈ methods) :
    bytesOf s!"\"{responseKey method}\":" = markerOf (bytesOf (responseKey method)) := by
  simp only [methods, List.mem_cons, List.not_mem_nil, or_false] at h
  rcases h with rfl | rfl | rfl
  · decide +kernel
  · decide +kernel
  · decide +kernel

variable [Codec] {gateway : AlipayGateway} {method : String} {response : ProviderResponse}
  {value : Json}

/-- The bytes whose signature was verified, and that they are what is returned. -/
def ReturnsSigned (gateway : AlipayGateway) (method : String) (response : ProviderResponse)
    (value : Json) : Prop :=
  ∃ body signature signed, readProviderBody response maxProviderResponseBytes = .ok body ∧
    extractSignedResponse body (responseKey method) = .ok signed ∧
    Codec.verifyRsaSha256 gateway.alipayPublicKey signed signature = .ok () ∧
    Codec.parseJson signed = .ok value

/-- What a call that succeeds has checked. -/
theorem readResponse_eq_ok (h : gateway.readResponse method response = .ok value) :
    ∃ body parsed signature signed, readProviderBody response maxProviderResponseBytes = .ok body ∧
      Codec.parseJson body = .ok parsed ∧ parsed.get (responseKey method) = some value ∧
      extractSignedResponse body (responseKey method) = .ok signed ∧
      Codec.verifyRsaSha256 gateway.alipayPublicKey signed signature = .ok () := by
  unfold readResponse at h
  obtain ⟨body, hbody, h⟩ := bind_eq_ok_iff.mp h
  obtain ⟨parsed, hparsed, h⟩ := bind_eq_ok_iff.mp h
  dsimp only at h
  split at h
  · cases h
  · cases h
  · rename_i found signature hfound hsignature
    obtain ⟨signed, hsigned, h⟩ := bind_eq_ok_iff.mp h
    obtain ⟨⟨⟩, hverified, h⟩ := bind_eq_ok_iff.mp h
    split at h
    · cases h
    · cases h
      exact ⟨body, parsed, signature, signed, hbody, PaymentError.ofJson_eq_ok hparsed, hfound,
        hsigned, hverified⟩

/-- The value after the first marker is the first marked member. -/
theorem extract_document {members : Members} {before after signed : Bytes}
    (hmethod : method ∈ methods) (hbefore : Blank before) (hafter : Blank after)
    (hwf : members.WellFormed)
    (hreads : ∀ part, members.firstMarked (bytesOf (responseKey method)) = some part →
      Codec.Reads part)
    (h : extractSignedResponse (before ++ (Document.object members).text ++ after)
      (responseKey method) = .ok signed) :
    ∃ part, members.firstMarked (bytesOf (responseKey method)) = some part ∧
      signed = part.text ∧ Codec.Reads part := by
  have hmarker := marker_responseKey hmethod
  have hnonempty : bytesOf s!"\"{responseKey method}\":" ≠ [] := by
    rw [hmarker]
    exact List.cons_ne_nil _ _
  have hblank : Ends after := by
    have hends := hafter.ends (show Ends [] by rintro _ ⟨⟩)
    rwa [List.append_nil] at hends
  have hsearch := (Document.object members).found (plain_responseKey hmethod) after hwf hblank
  obtain ⟨rest, hrest⟩ := marker_of_extractSignedResponse hnonempty h
  have hskip : afterFirst (markerOf (bytesOf (responseKey method)))
      (before ++ (Document.object members).text ++ after) =
        afterFirst (markerOf (bytesOf (responseKey method)))
          ((Document.object members).text ++ after) := by
    rw [List.append_assoc]
    exact afterFirst_of_noQuote hbefore.noQuote
  rw [hmarker, hskip] at hrest
  cases hpart : members.firstMarked (bytesOf (responseKey method)) with
  | none =>
      have hnone : (Document.object members).firstMarked (bytesOf (responseKey method)) = none :=
        hpart
      rw [hnone] at hsearch
      have hend : afterFirst (markerOf (bytesOf (responseKey method))) after = none := by
        have hlast := @afterFirst_of_noQuote (bytesOf (responseKey method)) after [] hafter.noQuote
        rwa [List.append_nil] at hlast
      rw [Found, hend] at hsearch
      rw [hsearch] at hrest
      cases hrest
  | some part =>
      have hsome : (Document.object members).firstMarked (bytesOf (responseKey method)) =
          some part := hpart
      rw [hsome] at hsearch
      obtain ⟨hpartWf, lead, trail, hlead, htrail, hfound⟩ := hsearch
      have hread := hreads part hpart
      refine ⟨part, rfl, ?_, hread⟩
      have hdrop := @dropWhile_blank lead part.text trail hlead (Document.head_text hpartWf)
      have hextracted := @extractSignedResponse_eq _ _ _ _ part.text.length
        (by rw [hmarker, hskip, hfound]) hnonempty
        (by
          rw [hdrop]
          obtain ⟨byte, hbyte, _⟩ := Document.head_text hpartWf
          intro hempty
          rw [List.append_eq_nil_iff] at hempty
          rw [hempty.1] at hbyte
          cases hbyte)
        (by rw [hdrop]; exact hread.first trail htrail)
      rw [h, hdrop, List.take_left] at hextracted
      exact Except.ok.inj hextracted

/--
A call that succeeds on an object returns what was signed exactly if the first member
written under the name of the response, in the order of the text and at any depth, has
the value of the last member of that name at the top.
-/
theorem returned_signed_iff {members : Members} {before after : Bytes}
    (hmethod : method ∈ methods) (hbefore : Blank before) (hafter : Blank after)
    (hwf : members.WellFormed)
    (hbody : readProviderBody response maxProviderResponseBytes =
      .ok (before ++ (Document.object members).text ++ after))
    (hparse : Codec.parseJson (before ++ (Document.object members).text ++ after) =
      .ok (Document.object members).value)
    (hreads : ∀ part, members.firstMarked (bytesOf (responseKey method)) = some part →
      Codec.Reads part)
    (h : gateway.readResponse method response = .ok value) :
    gateway.ReturnsSigned method response value ↔
      ∃ first last, members.firstMarked (bytesOf (responseKey method)) = some first ∧
        members.lastNamed (responseKey method) = some last ∧ first.value = last.value := by
  obtain ⟨body, parsed, signature, signed, hread, hparsed, hvalue, hsigned, hverified⟩ :=
    readResponse_eq_ok h
  cases hread.symm.trans hbody
  cases hparsed.symm.trans hparse
  have hlookup : members.fields.lookup (responseKey method) = some value := hvalue
  rw [Members.lookup_fields, Option.map_eq_some_iff] at hlookup
  obtain ⟨last, hlast, rfl⟩ := hlookup
  obtain ⟨part, hpart, rfl, hpartReads⟩ :=
    extract_document hmethod hbefore hafter hwf hreads hsigned
  constructor
  · rintro ⟨body', signature', signed', hbody', hsigned', _, hparse'⟩
    cases hbody'.symm.trans hbody
    cases hsigned'.symm.trans hsigned
    exact ⟨part, last, hpart, hlast, Except.ok.inj (hpartReads.parse.symm.trans hparse')⟩
  · rintro ⟨first, last', hfirst, hlast', hsame⟩
    cases hfirst.symm.trans hpart
    cases hlast'.symm.trans hlast
    exact ⟨_, signature, part.text, hbody, hsigned, hverified, by rw [← hsame]; exact
      hpartReads.parse⟩

end AlipayGateway

/-! ## A member that comes twice -/

section Twice

/-- A member without layout. -/
def plainMember (name : String) (value : Document) (rest : Members) : Members :=
  .cons ⟨[], bytesOf name, [], name⟩ [] value [] rest

def plainString (text : String) : Document := .string (bytesOf text) text

/-- What was signed. -/
def signedPart : Document := .object (plainMember "code" (plainString "10000") (.nil []))

/-- What was not. -/
def forgedPart : Document := .object (plainMember "code" (plainString "10000")
  (plainMember "trade_status" (plainString "TRADE_SUCCESS") (.nil [])))

def signatureMember : Members := plainMember "sign" (plainString "c2lnbg==") (.nil [])

def genuineBody : Members := plainMember "alipay_trade_query_response" signedPart signatureMember

/-- A response that carries another one under the same name. -/
def repeatedBody : Members := plainMember "alipay_trade_query_response" signedPart
  (plainMember "alipay_trade_query_response" forgedPart signatureMember)

/-- Reads the sample responses and what was signed in them. -/
@[reducible]
def responseCodec : Codec :=
  { plainCodec [] [(signedPart.text, signedPart.value),
      ((Document.object genuineBody).text, (Document.object genuineBody).value),
      ((Document.object repeatedBody).text, (Document.object repeatedBody).value)]
    with firstValue := fun bytes =>
      if signedPart.text <+: bytes then some (.ok signedPart.text.length) else none }

/-- A response of one chunk. -/
def sampleResponse (members : Members) : ProviderResponse :=
  ⟨200, [], none, [.ok (Document.object members).text]⟩

theorem signedPart_reads : @Codec.Reads responseCodec signedPart := by
  refine @Codec.Reads.mk responseCodec _ (by decide +kernel) fun rest _ => ?_
  exact if_pos (List.prefix_append _ _)

theorem plainMember_wellFormed {name : String} {value : Document} {rest : Members}
    (hname : Escaped (bytesOf name)) (hvalue : value.WellFormed) (hrest : rest.WellFormed) :
    (plainMember name value rest).WellFormed := by
  have hblank : Blank [] := by
    intro byte hbyte
    cases hbyte
  exact ⟨⟨hblank, hname, hblank⟩, hblank, hvalue, hblank, hrest⟩

theorem genuineBody_wellFormed : genuineBody.WellFormed := by
  have hend : (Members.nil []).WellFormed := by
    intro byte hbyte
    cases hbyte
  have hcode : (plainString "10000").WellFormed :=
    show Escaped (bytesOf "10000") by decide +kernel
  have hsign : (plainString "c2lnbg==").WellFormed :=
    show Escaped (bytesOf "c2lnbg==") by decide +kernel
  exact plainMember_wellFormed (by decide +kernel)
    (plainMember_wellFormed (by decide +kernel) hcode hend)
    (plainMember_wellFormed (by decide +kernel) hsign hend)

theorem genuineBody_signed :
    let _ : Codec := responseCodec
    sampleAlipay.ReturnsSigned "alipay.trade.query" (sampleResponse genuineBody)
      signedPart.value := by
  intro _
  have hfirst : genuineBody.firstMarked (bytesOf (AlipayGateway.responseKey
      "alipay.trade.query")) = some signedPart :=
    if_pos (show MemberName.Marked _ _ by decide +kernel)
  have hlast : genuineBody.lastNamed (AlipayGateway.responseKey "alipay.trade.query") =
      some signedPart := by
    have hname : "alipay_trade_query_response" =
        AlipayGateway.responseKey "alipay.trade.query" := by decide +kernel
    simp [genuineBody, signatureMember, plainMember, Members.lastNamed, ← hname]
  have hblank : Blank [] := by
    intro byte hbyte
    cases hbyte
  refine (@AlipayGateway.returned_signed_iff responseCodec sampleAlipay "alipay.trade.query"
    (sampleResponse genuineBody) signedPart.value genuineBody [] [] (by decide) hblank hblank
    genuineBody_wellFormed (by decide +kernel) (by decide +kernel) ?_ (by decide +kernel)).mpr
    ⟨signedPart, signedPart, hfirst, hlast, rfl⟩
  intro part hpart
  cases hfirst.symm.trans hpart
  exact signedPart_reads

/-- The first response is verified, and the second one is returned. -/
theorem repeatedBody_forged :
    let _ : Codec := responseCodec
    sampleAlipay.readResponse "alipay.trade.query" (sampleResponse repeatedBody) =
        .ok forgedPart.value ∧
      ¬sampleAlipay.ReturnsSigned "alipay.trade.query" (sampleResponse repeatedBody)
        forgedPart.value := by
  intro _
  refine ⟨by decide +kernel, ?_⟩
  rintro ⟨body, _, signed, hbody, hsigned, _, hparse⟩
  have hread : readProviderBody (sampleResponse repeatedBody) maxProviderResponseBytes =
      .ok (Document.object repeatedBody).text := by decide +kernel
  have hextracted : extractSignedResponse (Document.object repeatedBody).text
      (AlipayGateway.responseKey "alipay.trade.query") = .ok signedPart.text := by decide +kernel
  have hother : Codec.parseJson signedPart.text ≠ .ok forgedPart.value := by decide +kernel
  cases hbody.symm.trans hread
  cases hsigned.symm.trans hextracted
  exact hother hparse

end Twice

end MatchPlane
