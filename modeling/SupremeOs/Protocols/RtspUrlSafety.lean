import SupremeOs.DomainModel.JsValue

/-!
# Addresses of cameras

A stream is checked by talking to the camera of a URL that anyone may type in,
so only addresses of the local network may be connected to.  The host of a URL
may be a name; what a name stands for can change from one look-up to the next.

The parsing of URLs, the kind of an address, and what is said over an open
socket are parameters.  The texts of the diagnostics and the timeout are left
out.
-/

namespace SupremeOs.Protocols.Rtsp

open DomainModel

structure Url where
  protocol : String
  hostname : String
  port : String

structure RtspUrlValidation where
  ok : Bool
  reason : Option String
  host : Option String
  port : JsNumber
  resolvedAddress : Option String

structure RtspStreamCheck where
  ok : Bool
  checklist : List (String × Bool)
  reason : Option String

def isPrivateOrLoopbackV4 (host : String) : Bool :=
  ["10.", "192.168."].any (·.toList.isPrefixOf host.toList) ||
    ((List.range' 16 16).any fun n =>
      ("172." ++ toString n ++ ".").toList.isPrefixOf host.toList) ||
    ["169.254.", "127."].any (·.toList.isPrefixOf host.toList)

/-- What the validation lets through. -/
def isLocal (address : String) : Bool :=
  isPrivateOrLoopbackV4 address || decide (address = "0.0.0.0")

/-- `hostname.replace(/^\[|\]$/g, "")` -/
def unbracketed (hostname : String) : String :=
  let opened := if hostname.toList.head? = some '[' then hostname.toList.tail
    else hostname.toList
  String.ofList (if opened.getLast? = some ']' then opened.dropLast else opened)

section

variable (parseUrl : String → Option Url) (isIP : String → Nat)

/-- The answer is that of the look-up, if there is one; it fails with `none`. -/
def validateRtspUrl (answer : Option String) (raw : String) : RtspUrlValidation :=
  match parseUrl raw with
  | none => ⟨false, some "Not a valid URL.", none, .finite 0, none⟩
  | some url =>
    if url.protocol ≠ "rtsp:" ∧ url.protocol ≠ "rtsps:" then
      ⟨false, some "Only rtsp:// or rtsps:// URLs are allowed.", none, .finite 0, none⟩
    else if url.hostname = "" then ⟨false, some "URL has no host.", none, .finite 0, none⟩
    else
      let host := unbracketed url.hostname
      let port := if url.port = "" then .finite 554 else textToNumber url.port
      if isIP host = 6 then
        ⟨false, some "IPv6 camera addresses are not yet supported.", some host, .finite 0, none⟩
      else if isIP host = 4 then
        if isLocal host = false then
          ⟨false, some "Only local-network camera addresses are allowed.", some host, port, none⟩
        else ⟨true, none, some host, port, some host⟩
      else
        match answer with
        | none =>
          ⟨false, some "The camera hostname could not be resolved.", some host, port, none⟩
        | some resolved =>
          if isLocal resolved = false then
            ⟨false, some "Only local-network camera addresses are allowed.", some host, port,
              some resolved⟩
          else ⟨true, none, some host, port, some resolved⟩

variable {Socket : Type*} (factory : String → JsNumber → Option Socket)
  (converse : Socket → List (String × Bool) → RtspStreamCheck)

/-- The check and the calls of the socket factory, which fails with `none`. -/
def validateRtspStream (answer : Option String) (url : String) :
    RtspStreamCheck × List (String × JsNumber) :=
  let validation := validateRtspUrl parseUrl isIP answer url
  let checklist := [("Valid RTSP URL", validation.ok)]
  let invalid : RtspStreamCheck :=
    ⟨false, checklist, some (validation.reason.getD "The RTSP URL is not valid.")⟩
  if validation.ok = false then (invalid, [])
  else
    match validation.host with
    | none => (invalid, [])
    | some host =>
      if host = "" then (invalid, [])
      else
        (match factory host validation.port with
          | none => ⟨false, checklist ++ [("Reachable on the network", false)],
              some "The camera could not be reached on the network."⟩
          | some socket => converse socket (checklist ++ [("Reachable on the network", true)]),
          [(host, validation.port)])

/-- Only the address that was validated is connected to, and nothing if there is none. -/
structure StaysLocal (answer : Option String) (url : String) : Prop where
  hosts : ∀ call ∈ (validateRtspStream parseUrl isIP factory converse answer url).2,
    isIP call.1 = 4 ∧ isLocal call.1 = true ∧
      (validateRtspUrl parseUrl isIP answer url).resolvedAddress = some call.1
  rejected : (validateRtspUrl parseUrl isIP answer url).ok = false →
    (validateRtspStream parseUrl isIP factory converse answer url).2 = []

variable {parseUrl isIP factory converse} {answer : Option String} {raw : String}

/-- A URL that is accepted has a host, and a numeric one was validated itself. -/
theorem validateRtspUrl_ok (accepted : (validateRtspUrl parseUrl isIP answer raw).ok = true) :
    ∃ url, parseUrl raw = some url ∧
      (validateRtspUrl parseUrl isIP answer raw).host = some (unbracketed url.hostname) ∧
      (isIP (unbracketed url.hostname) = 4 → isLocal (unbracketed url.hostname) = true ∧
        (validateRtspUrl parseUrl isIP answer raw).resolvedAddress =
          some (unbracketed url.hostname)) := by
  unfold validateRtspUrl at accepted ⊢
  cases parsed : parseUrl raw with
  | none => simp [parsed] at accepted
  | some url =>
    refine ⟨url, rfl, ?_⟩
    simp only [parsed] at accepted ⊢
    generalize (if url.port = "" then JsNumber.finite 554 else textToNumber url.port) = port
      at accepted ⊢
    split_ifs at accepted ⊢ with foreign noHost six four away <;> try cases accepted
    · exact ⟨rfl, fun _ => ⟨eq_true_of_ne_false away, rfl⟩⟩
    · refine ⟨?_, fun numeric => absurd numeric four⟩
      cases answer with
      | none => cases accepted
      | some resolved => dsimp only; split <;> rfl

/-- Nothing else is connected to exactly if no name of an accepted URL is. -/
theorem staysLocal_iff : StaysLocal parseUrl isIP factory converse answer raw ↔
    ((validateRtspUrl parseUrl isIP answer raw).ok = true → ∀ url, parseUrl raw = some url →
      unbracketed url.hostname = "" ∨ isIP (unbracketed url.hostname) = 4) := by
  cases accepted : (validateRtspUrl parseUrl isIP answer raw).ok with
  | false => exact iff_of_true ⟨by simp [validateRtspStream, accepted],
      fun _ => by simp [validateRtspStream, accepted]⟩ nofun
  | true =>
    rcases validateRtspUrl_ok accepted with ⟨url, parsed, host, numeric⟩
    have calls : (validateRtspStream parseUrl isIP factory converse answer raw).2 =
        if unbracketed url.hostname = "" then [] else
          [(unbracketed url.hostname, (validateRtspUrl parseUrl isIP answer raw).port)] := by
      simp only [validateRtspStream, accepted, host, Bool.true_eq_false, if_false]
      split <;> rfl
    constructor
    · intro stays _ other same
      cases parsed.symm.trans same
      by_cases nameless : unbracketed url.hostname = ""
      · exact .inl nameless
      · exact .inr (stays.hosts _ (by rw [calls, if_neg nameless]; exact .head _)).1
    · intro literal
      refine ⟨fun call member => ?_, fun refused => absurd (accepted.symm.trans refused) nofun⟩
      rw [calls] at member
      split at member
      · cases member
      · rename_i named
        obtain rfl := List.mem_singleton.mp member
        have four := (literal rfl url parsed).resolve_left named
        exact ⟨four, numeric four⟩

end

/-- A name that stood for a local address is looked up again. -/
theorem staysLocal_fails_named :
    ¬∀ (parseUrl : String → Option Url) (isIP : String → Nat)
      (factory : String → JsNumber → Option Unit)
      (converse : Unit → List (String × Bool) → RtspStreamCheck) (answer : Option String)
      (raw : String), StaysLocal parseUrl isIP factory converse answer raw := by
  intro always
  have hosts := (always (fun _ => some ⟨"rtsp:", "camera.local", ""⟩) (fun _ => 0)
    (fun _ _ => none) (fun _ checklist => ⟨true, checklist, none⟩) (some "192.168.1.20")
    "rtsp://camera.local/").hosts
  revert hosts
  decide +kernel

end SupremeOs.Protocols.Rtsp
