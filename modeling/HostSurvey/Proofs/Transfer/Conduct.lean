import HostSurvey.Proofs.Survey.Terms
import HostSurvey.Transfer.Worker
/-!
# The conduct of transfers

What transfers of zones ask, on whatever terms. A transfer begins with the name servers of its zone. From
then on it looks up addresses, asks servers, writes a trace and makes hosts from records; a host is given to
storage only after both screens have let it through (`Terms.AllowTransfers`).
-/
namespace HostSurvey

open Net Activity

/-- What is asked to make hosts from records, but for the hosts that are stored. -/
def Request.IsOfRecords : Request → Prop
  | .screenName _ | .screenAddress _ | .addresses _ | .hostExists _ | .now => True
  | _ => False

/-- What a transfer asks once it has begun, but for the hosts that it stores. -/
def Request.IsOfTransfer : Request → Prop
  | .screenName _ | .screenAddress _ | .addresses _ | .hostExists _ | .now => True
  | .zoneFrom _ _ _ | .traceBegin _ | .traceLine _ _ | .traceRemove _ => True
  | _ => False

/-- Terms on which hosts can be made from records. -/
structure Terms.AllowRecords (terms : Terms) : Prop where
  permitted : ∀ r, r.IsOfRecords → terms.permits r
  /-- A host that was let through by both screens may be stored. -/
  passed : ∀ host : Host, terms.grants (.screenName host.name) false →
    terms.grants (.screenAddress host.address) false → terms.permits (.hostAdd host)

/-- Terms on which transfers can be made. -/
structure Terms.AllowTransfers (terms : Terms) : Prop where
  permitted : ∀ r, r.IsOfTransfer → terms.permits r
  /-- A host that was let through by both screens may be stored. -/
  passed : ∀ host : Host, terms.grants (.screenName host.name) false →
    terms.grants (.screenAddress host.address) false → terms.permits (.hostAdd host)

theorem Terms.AllowTransfers.allowRecords {terms : Terms} (allow : terms.AllowTransfers) : terms.AllowRecords where
  permitted r ofRecords := allow.permitted r (by cases r <;> first | exact ofRecords.elim | trivial)
  passed := allow.passed

namespace Transfer

variable {terms : Terms} (dns : Dns.Library)

/-! ## Records -/

private theorem addIfNew_observes (allow : terms.AllowRecords) {address : Address} {name : String}
    (source : HostSource) (named : terms.grants (.screenName name) false)
    (placed : terms.grants (.screenAddress address) false) :
    (addIfNew address name source).Observes terms fun _ => True := by
  unfold addIfNew
  refine observes_ask (allow.permitted _ trivial) fun known _ => ?_
  split
  · refine observes_ask (allow.permitted _ trivial) fun now _ => ?_
    apply observes_ask (allow.passed _ named placed)
    exact fun _ _ => observes_pure trivial
  · exact observes_pure trivial

private theorem addAddress_observes (allow : terms.AllowRecords) (name : String) (address : Address) :
    (addAddress name address).Observes terms fun _ => True := by
  unfold addAddress
  refine observes_ask (allow.permitted _ trivial) fun refused named => ?_
  cases refused with
  | true => exact observes_pure trivial
  | false =>
    refine observes_ask (allow.permitted _ trivial) fun refused placed => ?_
    cases refused with
    | true => exact observes_pure trivial
    | false => exact addIfNew_observes allow _ named placed

private theorem addEach_observes (allow : terms.AllowRecords) {name : String} (source : HostSource)
    (named : terms.grants (.screenName name) false) (addresses : List Address) :
    (addEach name source addresses).Observes terms fun _ => True := by
  induction addresses with
  | nil => exact observes_pure trivial
  | cons address rest ih =>
    unfold addEach
    refine observes_ask (allow.permitted _ trivial) fun refused placed => ?_
    cases refused with
    | true => exact ih
    | false =>
      apply observes_bind (addIfNew_observes allow source named placed)
      exact fun _ _ => ih

private theorem addNamed_observes (allow : terms.AllowRecords) (name : String) (source : HostSource) :
    (addNamed name source).Observes terms fun _ => True := by
  unfold addNamed
  refine observes_ask (allow.permitted _ trivial) fun refused named => ?_
  cases refused with
  | true => exact observes_pure trivial
  | false =>
    refine observes_ask (allow.permitted _ trivial) fun found _ => ?_
    cases found with
    | error e => exact observes_pure trivial
    | ok addresses => exact addEach_observes allow source named addresses

theorem ingest_observes (allow : terms.AllowRecords) (r : Dns.Record) :
    (ingest dns r).Observes terms fun _ => True := by
  unfold ingest
  split
  · exact addAddress_observes allow _ _
  · split
    · exact addNamed_observes allow _ _
    · exact observes_pure trivial
  · exact addNamed_observes allow _ _
  · exact observes_pure trivial

/-! ## Envelopes -/

private theorem takeRecords_observes (allow : terms.AllowTransfers) (traced : Bool) (zone : String)
    (records : List Dns.Record) : (takeRecords dns traced zone records).Observes terms fun _ => True := by
  induction records with
  | nil => exact observes_pure trivial
  | cons r rest ih =>
    have goesOn : (ingest dns r >>= fun _ => takeRecords dns traced zone rest).Observes terms fun _ => True :=
      observes_bind (ingest_observes dns allow.allowRecords r) fun _ _ => ih
    unfold takeRecords
    cases traced with
    | true => exact observes_ask (allow.permitted _ trivial) fun _ _ => goesOn
    | false => exact goesOn

private theorem takeEnvelopes_observes (allow : terms.AllowTransfers) (traced : Bool) (zone : String)
    (received : Nat) (envelopes : List Envelope) :
    (takeEnvelopes dns traced zone received envelopes).Observes terms fun _ => True := by
  induction envelopes generalizing received with
  | nil => exact observes_pure trivial
  | cons envelope rest ih =>
    cases envelope with
    | error e => exact observes_pure trivial
    | ok records =>
      apply observes_bind (takeRecords_observes dns allow traced zone records)
      exact fun _ _ => ih _

/-! ## Servers -/

private theorem attempt_observes (allow : terms.AllowTransfers) (settings : Settings.TransferSettings)
    (id : UInt16) (zone : String) (address : Address) :
    (attempt dns settings id zone address).Observes terms fun _ => True := by
  have closes : ∀ received failure, Activity.Observes terms (fun _ : Except Error Nat => True)
      (match failure with
        | some e => return .error e
        | none =>
          if received = 0 then return .error (.transfer zone
            ((⟨address, settings.port⟩ : Endpoint).text ++ " sent no records"))
          else return .ok received) := by
    intro received failure
    split
    · exact observes_pure trivial
    · split <;> exact observes_pure trivial
  unfold attempt
  split
  · exact observes_pure trivial
  · refine observes_ask (allow.permitted _ trivial) fun answer _ => ?_
    cases answer with
    | error e => exact observes_pure trivial
    | ok stream =>
      refine observes_ask (allow.permitted _ trivial) fun traced _ => ?_
      apply observes_bind (takeEnvelopes_observes dns allow traced zone 0 _)
      rintro ⟨received, failure⟩ _
      simp only
      split
      · exact observes_ask (allow.permitted _ trivial) fun _ _ => closes received failure
      · exact closes received failure

private theorem tryServers_observes (allow : terms.AllowTransfers) (settings : Settings.TransferSettings)
    (id : UInt16) (zone : String) (count : Nat) (failure : String) (servers : List Address) :
    (tryServers dns settings id zone count failure servers).Observes terms fun _ => True := by
  induction servers generalizing failure with
  | nil => exact observes_pure trivial
  | cons server rest ih =>
    apply observes_bind (attempt_observes dns allow settings id zone server)
    intro result _
    cases result with
    | ok received => exact observes_pure trivial
    | error e => exact ih _

private theorem lookUpEach_observes (allow : terms.AllowTransfers) (names : List String) :
    (lookUpEach names).Observes terms fun _ => True := by
  induction names with
  | nil => exact observes_pure trivial
  | cons name rest ih =>
    refine observes_ask (allow.permitted _ trivial) fun found _ => ?_
    exact observes_bind ih fun _ _ => observes_pure trivial

/-! ## Errands -/

/-- A host name whose zone is to be asked for, with requests that bear a number. -/
structure Errand where
  dns : Dns.Library
  settings : Settings.TransferSettings
  arrange : List (List Address) → List (List Address)
  id : UInt16
  name : String

namespace Errand

/-- What is done about the errand. -/
def activity (errand : Errand) : Activity Unit :=
  process errand.dns errand.settings errand.arrange errand.id errand.name

/-- What is done about a zone, once it is known that nobody asked for it before. -/
def perform (errand : Errand) (zone : String) : Activity (Except Error Nat) :=
  Transfer.perform errand.dns errand.settings errand.arrange errand.id zone

/-- A transfer begins with the name servers of its zone. What follows observes any terms on which
transfers can be made. -/
theorem perform_begins (errand : Errand) (zone : String) :
    ∃ rest, errand.perform zone = .ask (.nameservers zone) rest ∧
      ∀ terms : Terms, terms.AllowTransfers → ∀ given, (rest given).Observes terms fun _ => True := by
  refine ⟨_, rfl, ?_⟩
  intro terms allow given
  cases given with
  | error e => exact observes_pure trivial
  | ok names =>
    have looked : Activity.Observes terms (fun _ : Except Error (List Address) => True)
        (lookUpEach names >>= fun found => pure (.ok (errand.arrange found).flatten.eraseDups)) :=
      observes_bind (lookUpEach_observes allow names) fun _ _ => observes_pure trivial
    apply observes_bind looked
    intro found _
    split
    · exact observes_pure trivial
    · exact observes_pure trivial
    · exact tryServers_observes errand.dns allow errand.settings errand.id zone _ _ _

end Errand
end Transfer
end HostSurvey
