import MatchPlane.Library.Pairs
import MatchPlane.Payments.Echoes

/-!
# Signed content

EPay and Alipay sign the parameters of a notification as one text, joined without
escaping and without the empty ones.  Two notifications under one signature tell the
same event as long as no signed name has an equals sign and no signed value an
ampersand; with an ampersand in a value, one text has several readings.
-/

namespace MatchPlane

open MatchPlane.Library

/-- The parameters that carry the signature are not signed themselves. -/
def unsignedNames : List String := ["sign", "sign_type"]

/-- The parameters of a notification. -/
def WebhookRequest.form [Codec] (request : WebhookRequest) : Form :=
  .ofList (Codec.parseForm request.body)

namespace Form

/-- No signed name has an equals sign, and no signed value an ampersand. -/
def Separable (form : Form) : Prop :=
  ∀ entry ∈ form.toList, entry.1 ∉ unsignedNames → entry.2 ≠ "" →
    '=' ∉ entry.1.toList ∧ '&' ∉ entry.2.toList

instance (form : Form) : Decidable form.Separable :=
  inferInstanceAs (Decidable (∀ entry ∈ form.toList, _))

/-- The parameters that are signed, in the order in which they are joined. -/
def signed (form : Form) : List (String × String) :=
  form.toList.filter fun (key, value) => key ∉ unsignedNames ∧ value ≠ ""

section Canonical

variable {form other : Form}

theorem toList_canonical (form : Form) : (form.canonical unsignedNames).toList =
    joinPairs '=' '&' (form.signed.map fun entry => (entry.1.toList, entry.2.toList)) := by
  unfold canonical
  rw [String.toList_intercalate, joinPairs, List.map_map, List.map_map]
  congr 1
  apply List.map_congr_left
  rintro ⟨key, value⟩ _
  change (key ++ "=" ++ value).toList = key.toList ++ '=' :: value.toList
  rw [String.toList_append, String.toList_append, List.append_assoc]
  rfl

theorem mem_signed {key value : String} : (key, value) ∈ form.signed ↔
    form[key]? = some value ∧ key ∉ unsignedNames ∧ value ≠ "" := by
  simp [signed, List.mem_filter]

theorem filled_eq_some_iff {key value : String} (h : key ∉ unsignedNames) :
    form.filled key = some value ↔ (key, value) ∈ form.signed := by
  simp [filled, mem_signed, Option.filter_eq_some_iff, h]

theorem Separable.signed (h : form.Separable) :
    ∀ pair ∈ form.signed.map fun entry => (entry.1.toList, entry.2.toList),
      Library.Separable '=' '&' pair := by
  intro pair hpair
  obtain ⟨⟨key, value⟩, hentry, rfl⟩ := List.mem_map.mp hpair
  obtain ⟨hlookup, hkey, hvalue⟩ := mem_signed.mp hentry
  exact h (key, value) (OrderedMap.mem_toList.mpr hlookup) hkey hvalue

/-- The signed text determines every signed parameter. -/
theorem filled_eq_of_canonical (hform : form.Separable) (hother : other.Separable)
    (h : form.canonical unsignedNames = other.canonical unsignedNames) {key : String}
    (hkey : key ∉ unsignedNames) : form.filled key = other.filled key := by
  have htext := congrArg String.toList h
  rw [toList_canonical, toList_canonical] at htext
  have hpairs := joinPairs_injective hform.signed hother.signed htext
  have hinjective : Function.Injective fun entry : String × String =>
      (entry.1.toList, entry.2.toList) := by
    rintro ⟨key, value⟩ ⟨key', value'⟩ hsame
    rw [Prod.mk.injEq, String.toList_inj, String.toList_inj] at hsame
    exact Prod.ext hsame.1 hsame.2
  have hsigned : form.signed = other.signed := hinjective.list_map hpairs
  apply Option.ext
  intro value
  rw [filled_eq_some_iff hkey, filled_eq_some_iff hkey, hsigned]

/-! ## What the adapters read -/

theorem filled_of_required {key field text : String}
    (h : requiredField form[key]? field = .ok text) : form.filled key = some text := by
  have hlookup := requiredField_eq_ok h
  unfold requiredField at h
  rw [hlookup] at h
  rw [filled, hlookup, Option.filter_eq_some_iff]
  refine ⟨rfl, decide_eq_true ?_⟩
  rintro rfl
  cases h

/-- An amount that is read is not empty. -/
theorem filled_of_amount {key currency : String} {scale : Nat} {amount : Option Money}
    (h : form[key]?.mapM (decimalMoney · currency scale) = .ok amount) :
    form[key]? = form.filled key := by
  cases hlookup : form[key]? with
  | none => rw [filled, hlookup, Option.filter_none]
  | some value =>
      symm
      rw [filled, hlookup, Option.filter_eq_some_iff]
      refine ⟨rfl, decide_eq_true ?_⟩
      rintro rfl
      rw [hlookup] at h
      cases h

end Canonical

end Form

section Events

variable [Codec] {request other : WebhookRequest} {event : WebhookEvent}

namespace EpayGateway

variable {gateway : EpayGateway}

/-- What an accepted notification was read from. -/
theorem webhook_read (h : gateway.webhook request = .ok event) :
    request.form["sign"]? = some (gateway.sign request.form) ∧
    ∃ status merchantOrderId amount, request.form.filled "trade_status" = some status ∧
      request.form.filled "out_trade_no" = some merchantOrderId ∧
      ((request.form.filled "money").or (request.form.filled "total_amount")).mapM
        (decimalMoney · gateway.currency 2) = .ok amount ∧
      event = .payment {
        providerEventId := (request.form.filled "trade_no").getD s!"{merchantOrderId}:{status}"
        eventType := s!"epay.{status}"
        merchantOrderId := some merchantOrderId
        providerReference := some ((request.form.filled "trade_no").getD merchantOrderId)
        status := webhookStatus status
        providerStatus := status
        amount := amount } := by
  unfold webhook at h
  obtain ⟨provided, hprovided, h⟩ := bind_eq_ok_iff.mp h
  rw [guard_eq_ok_iff, guard_eq_ok_iff] at h
  obtain ⟨_, hsign, h⟩ := h
  obtain ⟨status, hstatus, h⟩ := bind_eq_ok_iff.mp h
  obtain ⟨merchantOrderId, horder, h⟩ := bind_eq_ok_iff.mp h
  obtain ⟨amount, hamount, h⟩ := bind_eq_ok_iff.mp h
  cases h
  refine ⟨(requiredField_eq_ok hprovided).trans (congrArg some (not_not.mp hsign).symm), status,
    merchantOrderId, amount, Form.filled_of_required hstatus, Form.filled_of_required horder,
    ?_, rfl⟩
  change (request.form["money"]?.or request.form["total_amount"]?).mapM _ = _ at hamount
  cases hmoney : request.form["money"]? with
  | some value =>
      rw [hmoney, Option.some_or, ← hmoney] at hamount
      rw [← Form.filled_of_amount hamount, hmoney, Option.some_or, ← hmoney]
      exact hamount
  | none =>
      rw [hmoney, Option.none_or] at hamount
      rw [Form.filled, hmoney, Option.filter_none, Option.none_or, ← Form.filled_of_amount hamount]
      exact hamount

/-- Equal parameters tell the same event. -/
theorem event_eq_of_filled {event' : WebhookEvent}
    (hfilled : ∀ key ∉ unsignedNames, request.form.filled key = other.form.filled key)
    (h : gateway.webhook request = .ok event) (h' : gateway.webhook other = .ok event') :
    event = event' := by
  obtain ⟨_, status, merchantOrderId, amount, hstatus, horder, hamount, rfl⟩ := webhook_read h
  obtain ⟨_, status', merchantOrderId', amount', hstatus', horder', hamount', rfl⟩ :=
    webhook_read h'
  rw [hfilled "trade_status" (by decide), hstatus'] at hstatus
  rw [hfilled "out_trade_no" (by decide), horder'] at horder
  rw [hfilled "money" (by decide), hfilled "total_amount" (by decide), hamount'] at hamount
  cases hstatus
  cases horder
  cases hamount
  rw [hfilled "trade_no" (by decide)]

end EpayGateway

namespace AlipayGateway

variable {gateway : AlipayGateway}

/-- What an accepted notification was read from. -/
theorem webhook_read (h : gateway.webhook request = .ok event) :
    ∃ signature eventId, request.form["sign"]? = some signature ∧
      Codec.verifyRsaSha256 gateway.alipayPublicKey
        (bytesOf (request.form.canonical unsignedNames)) signature = .ok () ∧
      providerEventId request.form
        ((request.form.filled "trade_no").or (request.form.filled "out_trade_no")) =
          .ok eventId ∧
      ((∃ refundStatus amount, request.form.filled "refund_status" = some refundStatus ∧
          (request.form.filled "refund_fee").mapM (decimalMoney · "CNY" 2) = .ok amount ∧
          event = .refund {
            providerEventId := eventId
            eventType := s!"alipay.{refundStatus}"
            merchantOrderId := request.form.filled "out_trade_no"
            providerReference :=
              (request.form.filled "trade_no").or (request.form.filled "out_trade_no")
            refundReference := request.form.filled "out_biz_no"
            status := refundWebhookStatus refundStatus
            providerStatus := refundStatus
            amount := amount }) ∨
        ∃ providerStatus amount, request.form.filled "refund_status" = none ∧
          request.form.filled "trade_status" = some providerStatus ∧
          (request.form.filled "total_amount").mapM (decimalMoney · "CNY" 2) = .ok amount ∧
          event = .payment {
            providerEventId := eventId
            eventType := s!"alipay.{providerStatus}"
            merchantOrderId := request.form.filled "out_trade_no"
            providerReference :=
              (request.form.filled "trade_no").or (request.form.filled "out_trade_no")
            status := webhookStatus providerStatus
            providerStatus := providerStatus
            amount := amount }) := by
  unfold webhook at h
  obtain ⟨signature, hsignature, h⟩ := bind_eq_ok_iff.mp h
  rw [guard_eq_ok_iff, guard_eq_ok_iff] at h
  obtain ⟨_, _, h⟩ := h
  obtain ⟨⟨⟩, hverified, h⟩ := bind_eq_ok_iff.mp h
  obtain ⟨eventId, hid, h⟩ := bind_eq_ok_iff.mp h
  refine ⟨signature, eventId, requiredField_eq_ok hsignature, hverified, hid, ?_⟩
  have hform : .ofList (Codec.parseForm request.body) compare = request.form := rfl
  rw [hform] at h
  cases hrefund : request.form.filled "refund_status" with
  | some refundStatus =>
      rw [hrefund] at h
      obtain ⟨amount, hamount, h⟩ := bind_eq_ok_iff.mp h
      cases h
      exact .inl ⟨refundStatus, amount, rfl, Form.filled_of_amount hamount ▸ hamount, rfl⟩
  | none =>
      rw [hrefund] at h
      obtain ⟨providerStatus, hstatus, h⟩ := bind_eq_ok_iff.mp h
      obtain ⟨amount, hamount, h⟩ := bind_eq_ok_iff.mp h
      cases h
      exact .inr ⟨providerStatus, amount, rfl, Form.filled_of_required hstatus,
        Form.filled_of_amount hamount ▸ hamount, rfl⟩

omit [Codec] in
/-- The identity of an event depends on what is filled in. -/
theorem providerEventId_of_filled {form form' : Form} {reference : Option String}
    {eventId eventId' : String}
    (hfilled : ∀ key ∉ unsignedNames, form.filled key = form'.filled key)
    (h : providerEventId form reference = .ok eventId)
    (h' : providerEventId form' reference = .ok eventId') : eventId = eventId' := by
  have hstatus : ∀ status status', form["trade_status"]? = some status →
      form'["trade_status"]? = some status' → status = status' := by
    intro status status' hlookup hlookup'
    have hsame := hfilled "trade_status" (by decide)
    rw [Form.filled, Form.filled, hlookup, hlookup', Option.filter_some, Option.filter_some] at hsame
    by_cases hempty : status = "" <;> by_cases hempty' : status' = "" <;> simp_all
  unfold providerEventId at h h'
  rw [hfilled "notify_id" (by decide)] at h
  cases hnotify : form'.filled "notify_id" with
  | some notifyId =>
      rw [hnotify] at h h'
      cases h
      cases h'
      rfl
  | none =>
      rw [hnotify] at h h'
      cases reference with
      | none => cases h
      | some reference =>
          cases hfirst : form["trade_status"]? with
          | none =>
              rw [hfirst] at h
              cases h
          | some status =>
              cases hsecond : form'["trade_status"]? with
              | none =>
                  rw [hsecond] at h'
                  cases h'
              | some status' =>
                  rw [hfirst] at h
                  rw [hsecond] at h'
                  cases h
                  cases h'
                  rw [hstatus status status' hfirst hsecond]

/-- Equal parameters tell the same event. -/
theorem event_eq_of_filled {event' : WebhookEvent}
    (hfilled : ∀ key ∉ unsignedNames, request.form.filled key = other.form.filled key)
    (h : gateway.webhook request = .ok event) (h' : gateway.webhook other = .ok event') :
    event = event' := by
  obtain ⟨_, eventId, _, _, hid, hevent⟩ := webhook_read h
  obtain ⟨_, eventId', _, _, hid', hevent'⟩ := webhook_read h'
  rw [hfilled "trade_no" (by decide), hfilled "out_trade_no" (by decide)] at hid
  have hsame : eventId = eventId' := providerEventId_of_filled hfilled hid hid'
  simp only [hfilled "trade_no" (by decide), hfilled "out_trade_no" (by decide),
    hfilled "refund_status" (by decide), hfilled "refund_fee" (by decide),
    hfilled "out_biz_no" (by decide), hfilled "trade_status" (by decide),
    hfilled "total_amount" (by decide), hsame] at hevent
  rcases hevent with ⟨refundStatus, amount, hrefund, hamount, rfl⟩ |
    ⟨providerStatus, amount, hrefund, hstatus, hamount, rfl⟩
  · rcases hevent' with ⟨refundStatus', amount', hrefund', hamount', rfl⟩ | ⟨_, _, hnone, _⟩
    · cases hrefund.symm.trans hrefund'
      cases hamount.symm.trans hamount'
      rfl
    · cases hrefund.symm.trans hnone
  · rcases hevent' with ⟨_, _, hsome, _⟩ | ⟨providerStatus', amount', _, hstatus', hamount', rfl⟩
    · cases hsome.symm.trans hrefund
    · cases hstatus.symm.trans hstatus'
      cases hamount.symm.trans hamount'
      rfl

end AlipayGateway

/--
Two accepted notifications with one signature, which binds the text that is signed,
tell the same event and agree on all parameters that are not empty, as long as no
signed name of either has an equals sign and no signed value an ampersand.
-/
theorem signed_content_determines_event (first second : WebhookRequest)
    (hfirst : first.form.Separable) (hsecond : second.form.Separable)
    (hsignature : first.form["sign"]? = second.form["sign"]?) :
    (∀ (gateway : EpayGateway) (event event' : WebhookEvent),
      (gateway.sign first.form = gateway.sign second.form →
        first.form.canonical unsignedNames = second.form.canonical unsignedNames) →
      gateway.webhook first = .ok event → gateway.webhook second = .ok event' →
        event = event' ∧
          ∀ key ∉ unsignedNames, first.form.filled key = second.form.filled key) ∧
    ∀ (gateway : AlipayGateway) (event event' : WebhookEvent),
      (∀ signature, Codec.verifyRsaSha256 gateway.alipayPublicKey
          (bytesOf (first.form.canonical unsignedNames)) signature = .ok () →
        Codec.verifyRsaSha256 gateway.alipayPublicKey
          (bytesOf (second.form.canonical unsignedNames)) signature = .ok () →
        first.form.canonical unsignedNames = second.form.canonical unsignedNames) →
      gateway.webhook first = .ok event → gateway.webhook second = .ok event' →
        event = event' ∧
          ∀ key ∉ unsignedNames, first.form.filled key = second.form.filled key := by
  constructor
  · intro gateway event event' hbinds h h'
    have hsign := (EpayGateway.webhook_read h).1
    have hsign' := (EpayGateway.webhook_read h').1
    rw [hsignature, hsign'] at hsign
    have hfilled : ∀ key ∉ unsignedNames, first.form.filled key = second.form.filled key :=
      fun key hkey => Form.filled_eq_of_canonical hfirst hsecond
        (hbinds (Option.some.inj hsign).symm) hkey
    exact ⟨EpayGateway.event_eq_of_filled hfilled h h', hfilled⟩
  · intro gateway event event' hbinds h h'
    obtain ⟨signature, _, hsign, hverified, _⟩ := AlipayGateway.webhook_read h
    obtain ⟨signature', _, hsign', hverified', _⟩ := AlipayGateway.webhook_read h'
    rw [hsignature, hsign'] at hsign
    cases hsign
    have hfilled : ∀ key ∉ unsignedNames, first.form.filled key = second.form.filled key :=
      fun key hkey => Form.filled_eq_of_canonical hfirst hsecond
        (hbinds _ hverified hverified') hkey
    exact ⟨AlipayGateway.event_eq_of_filled hfilled h h', hfilled⟩

end Events

/-! ## An ampersand in a value -/

section Ampersand

def hexDigit (char : Char) : Option Nat :=
  if char.isDigit then some (char.toNat - 48)
  else if 'A' ≤ char ∧ char ≤ 'F' then some (char.toNat - 55)
  else if 'a' ≤ char ∧ char ≤ 'f' then some (char.toNat - 87)
  else none

def percentDecode : List Char → List Char
  | [] => []
  | '+' :: rest => ' ' :: percentDecode rest
  | '%' :: rest =>
      match rest with
      | high :: low :: rest =>
          match hexDigit high, hexDigit low with
          | some high, some low => Char.ofNat (16 * high + low) :: percentDecode rest
          | _, _ => '%' :: percentDecode (high :: low :: rest)
      | rest => '%' :: percentDecode rest
  | char :: rest => char :: percentDecode rest

/-- Reads a form whose characters are ASCII, escaped or not. -/
def percentForm (body : Bytes) : List (String × String) :=
  (plainForm body).map fun (key, value) =>
    (String.ofList (percentDecode key.toList), String.ofList (percentDecode value.toList))

/-- Reads escaped forms, and knows the digest of one text. -/
@[reducible]
def typedCodec : Codec :=
  { plainCodec [(bytesOf ("money=100.00&out_trade_no=order-1&pid=merchant&trade_no=trade-1&" ++
      "trade_status=TRADE_SUCCESS&type=alipaysecret-key"), "5541d9a5e9d81f087a036ad8b30e3774")] []
    with parseForm := percentForm }

/-- A notification under the signature of that text. -/
def typedNotice (before after : String) : WebhookRequest := ⟨[], bytesOf
  (s!"{before}pid=merchant&trade_no=trade-1&{after}&sign_type=MD5&" ++
    "sign=5541d9a5e9d81f087a036ad8b30e3774")⟩

/-- The notification as it is sent. -/
def paidNotice : WebhookRequest :=
  typedNotice "money=100.00&out_trade_no=order-1&" "trade_status=TRADE_SUCCESS&type=alipay"

/-- The same parameters in another order, and an empty one. -/
def reorderedNotice : WebhookRequest :=
  typedNotice "type=alipay&out_trade_no=order-1&buyer=&money=100.00&" "trade_status=TRADE_SUCCESS"

/-- The type of the payment has become a part of its status. -/
def joinedNotice : WebhookRequest :=
  typedNotice "money=100.00&out_trade_no=order-1&" "trade_status=TRADE_SUCCESS%26type%3Dalipay"

theorem paidNotice_determined :
    let _ : Codec := typedCodec
    (sampleEpay.webhook reorderedNotice).isOk = true ∧ ∀ event event',
      sampleEpay.webhook paidNotice = .ok event →
        sampleEpay.webhook reorderedNotice = .ok event' → event = event' := by
  intro _
  refine ⟨by decide +kernel, fun event event' h h' => ?_⟩
  exact ((signed_content_determines_event paidNotice reorderedNotice (by decide +kernel)
    (by decide +kernel) (by decide +kernel)).1 sampleEpay event event'
      (fun _ => by decide +kernel) h h').1

/--
One signature, one signed text and two events: the payment is captured in one and
pending in the other.
-/
theorem paidNotice_ambiguous :
    let _ : Codec := typedCodec
    paidNotice.form["sign"]? = joinedNotice.form["sign"]? ∧
      paidNotice.form.canonical unsignedNames = joinedNotice.form.canonical unsignedNames ∧
      (∃ event, sampleEpay.webhook paidNotice = .ok (.payment event) ∧
        event.status = .captured) ∧
      (∃ event, sampleEpay.webhook joinedNotice = .ok (.payment event) ∧
        event.status = .pending) ∧
      paidNotice.form["trade_status"]? ≠ joinedNotice.form["trade_status"]? := by
  intro _
  refine ⟨by decide +kernel, by decide +kernel, ⟨⟨"trade-1", "epay.TRADE_SUCCESS",
    some "order-1", some "trade-1", .captured, "TRADE_SUCCESS", some ⟨"10000", "CNY", 2⟩⟩,
    by decide +kernel, rfl⟩, ⟨⟨"trade-1", "epay.TRADE_SUCCESS&type=alipay", some "order-1",
    some "trade-1", .pending, "TRADE_SUCCESS&type=alipay", some ⟨"10000", "CNY", 2⟩⟩,
    by decide +kernel, rfl⟩, by decide +kernel⟩

end Ampersand

end MatchPlane
