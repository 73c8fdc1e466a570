import PhantomFlow.Network.ProtocolHandler

namespace PhantomFlow.Network
open Library ProtocolHandler
variable {data : List UInt8} {text other : String}

def detectedRequest (data : List UInt8) : Bool :=
  hasPrefix data "GET " || hasPrefix data "POST " || hasPrefix data "PUT " || hasPrefix data "DELETE "

theorem hasPrefix_iff : hasPrefix data text = true ↔ ascii text <+: data := List.isPrefixOf_iff_prefix

theorem hasPrefix_length (found : hasPrefix data text = true) : (ascii text).length ≤ data.length :=
  (hasPrefix_iff.mp found).length_le

theorem hasPrefix_apart (found : hasPrefix data text = true) (apart : ¬ ascii text <+: ascii other)
    (apart' : ¬ ascii other <+: ascii text) : hasPrefix data other = false := by
  cases also : hasPrefix data other with
  | false => rfl
  | true =>
      cases List.prefix_or_prefix_of_prefix (hasPrefix_iff.mp found) (hasPrefix_iff.mp also) with
      | inl inside => exact absurd inside apart
      | inr inside => exact absurd inside apart'

theorem detectedRequest_length (found : detectedRequest data = true) : 0 < data.length := by
  cases data with
  | nil => exact absurd found (by decide)
  | cons b rest => exact Nat.succ_pos _

theorem validate_eq (data : List UInt8) :
    HTTPProcessor.validate data = (detectedRequest data || hasPrefix data "HEAD " || hasPrefix data "OPTIONS ") := rfl

theorem head_undetected (found : hasPrefix data "HEAD " = true) : detectedRequest data = false := by
  unfold detectedRequest
  rw [hasPrefix_apart found (by decide) (by decide),hasPrefix_apart found (by decide) (by decide),
    hasPrefix_apart found (by decide) (by decide),hasPrefix_apart found (by decide) (by decide)]
  rfl

theorem options_undetected (found : hasPrefix data "OPTIONS " = true) : detectedRequest data = false := by
  unfold detectedRequest
  rw [hasPrefix_apart found (by decide) (by decide),hasPrefix_apart found (by decide) (by decide),
    hasPrefix_apart found (by decide) (by decide),hasPrefix_apart found (by decide) (by decide)]
  rfl

-- The test for empty data and the one for TCP change nothing.
theorem detectProtocol_eq (data : List UInt8) : detectProtocol data =
    if detectedRequest data then .http else if 12 ≤ data.length then .dns else if 8 ≤ data.length then .udp else .unknown := by
  have request : (hasPrefix data "GET " || hasPrefix data "POST " || hasPrefix data "PUT " ||
      hasPrefix data "DELETE ") = detectedRequest data := rfl
  unfold detectProtocol
  rw [request]
  cases found : detectedRequest data with
  | true =>
      have present := detectedRequest_length found
      rw [if_neg (by omega)]
      rfl
  | false =>
      by_cases empty : data.length = 0
      · simp [empty]
      · by_cases twelve : 12 ≤ data.length
        · simp [empty,twelve]
        · have short : ¬ 20 ≤ data.length := by omega
          simp [empty,twelve,short]

theorem detected_http_iff (data : List UInt8) : detectProtocol data = .http ↔ detectedRequest data = true := by
  rw [detectProtocol_eq]
  cases detectedRequest data with
  | true => exact ⟨fun _ => rfl,fun _ => rfl⟩
  | false =>
      by_cases twelve : 12 ≤ data.length
      · simp [twelve]
      · by_cases eight : 8 ≤ data.length <;> simp [twelve,eight]

theorem detected_unknown_iff (data : List UInt8) :
    detectProtocol data = .unknown ↔ detectedRequest data = false ∧ data.length < 8 := by
  rw [detectProtocol_eq]
  cases detectedRequest data with
  | true => simp
  | false =>
      by_cases twelve : 12 ≤ data.length
      · have long : ¬ data.length < 8 := by omega
        simp [twelve,long]
      · simp [twelve]

theorem detected_cases (data : List UInt8) : detectProtocol data = .http ∨ detectProtocol data = .dns ∨
    detectProtocol data = .udp ∨ detectProtocol data = .unknown := by
  rw [detectProtocol_eq]
  split
  · exact Or.inl rfl
  · split
    · exact Or.inr (Or.inl rfl)
    · split
      · exact Or.inr (Or.inr (Or.inl rfl))
      · exact Or.inr (Or.inr (Or.inr rfl))

theorem detected_ne_tcp (data : List UInt8) : detectProtocol data ≠ .tcp := by
  intro tcp
  have cases := detected_cases data
  rw [tcp] at cases
  exact absurd cases (by decide)

theorem detected_validates (registered : newProtocolHandler.handlers.get (detectProtocol data) = some processor) :
    processor.validate data = true := by
  obtain ⟨type,rfl⟩ | ⟨type,rfl⟩ | ⟨type,rfl⟩ | ⟨type,rfl⟩ := registered_cases registered
  · have found := (detected_http_iff data).mp type
    change HTTPProcessor.validate data = true
    rw [validate_eq,found]
    rfl
  · exact absurd type (detected_ne_tcp data)
  · rw [detectProtocol_eq] at type
    apply decide_eq_true
    split at type
    · cases type
    · split at type
      · cases type
      · split at type
        · assumption
        · cases type
  · rw [detectProtocol_eq] at type
    apply decide_eq_true
    split at type
    · cases type
    · split at type
      · assumption
      · split at type <;> cases type

theorem detected_processes (now : ℤ)
    (registered : newProtocolHandler.handlers.get (detectProtocol data) = some processor) :
    processor.validate data = true ∧ (processor.process now data).2 = none :=
  ⟨detected_validates registered,processes_validated now data registered (detected_validates registered)⟩

theorem http_agrees_iff (data : List UInt8) : (detectProtocol data = .http ↔ HTTPProcessor.validate data = true) ↔
    hasPrefix data "HEAD " = false ∧ hasPrefix data "OPTIONS " = false := by
  rw [detected_http_iff,validate_eq]
  cases head : hasPrefix data "HEAD " with
  | true => simp [head_undetected head]
  | false =>
      cases options : hasPrefix data "OPTIONS " with
      | true => simp [options_undetected options]
      | false => simp

-- Data of an unknown kind is refused by every processor, except short `HEAD` requests.
theorem unknown_refused_iff (data : List UInt8) :
    (detectProtocol data = .unknown → ∀ type processor, newProtocolHandler.handlers.get type = some processor →
      processor.validate data = false) ↔ ¬ (hasPrefix data "HEAD " = true ∧ data.length < 8) := by
  rw [detected_unknown_iff]
  constructor
  · intro refused both
    have refuses := refused ⟨head_undetected both.1,both.2⟩ .http httpProcessor rfl
    change HTTPProcessor.validate data = false at refuses
    rw [validate_eq,both.1] at refuses
    simp at refuses
  · intro apart unknown type processor registered
    have head : hasPrefix data "HEAD " = false := by
      cases found : hasPrefix data "HEAD " with
      | false => rfl
      | true => exact absurd ⟨found,unknown.2⟩ apart
    have options : hasPrefix data "OPTIONS " = false := by
      cases found : hasPrefix data "OPTIONS " with
      | false => rfl
      | true => exact absurd (hasPrefix_length found) (Nat.not_le.mpr unknown.2)
    obtain ⟨_,rfl⟩ | ⟨_,rfl⟩ | ⟨_,rfl⟩ | ⟨_,rfl⟩ := registered_cases registered
    · change HTTPProcessor.validate data = false
      rw [validate_eq,unknown.1,head,options]
      rfl
    · exact decide_eq_false (by omega)
    · exact decide_eq_false (by omega)
    · exact decide_eq_false (by omega)

structure DetectionAgrees (now : ℤ) (data : List UInt8) : Prop where
  http : detectProtocol data = .http ↔ HTTPProcessor.validate data = true
  processed : ∀ processor, newProtocolHandler.handlers.get (detectProtocol data) = some processor →
    processor.validate data = true ∧ (processor.process now data).2 = none
  unknown : detectProtocol data = .unknown → ∀ type processor,
    newProtocolHandler.handlers.get type = some processor → processor.validate data = false

def Dispatched (type : ProtocolType) : Prop :=
  ∀ processor, newProtocolHandler.handlers.get type = some processor → ∃ data, detectProtocol data = type

theorem dispatched_iff (type : ProtocolType) : Dispatched type ↔ type ≠ .tcp := by
  constructor
  · rintro reached rfl
    obtain ⟨data,tcp⟩ := reached tcpProcessor rfl
    exact detected_ne_tcp data tcp
  · intro other processor registered
    obtain ⟨rfl,_⟩ | ⟨rfl,_⟩ | ⟨rfl,_⟩ | ⟨rfl,_⟩ := registered_cases registered
    · exact ⟨ascii "GET ",by decide⟩
    · exact absurd rfl other
    · exact ⟨List.replicate 8 0,by decide⟩
    · exact ⟨List.replicate 12 0,by decide⟩

theorem detection_agrees_exact (now : ℤ) (data : List UInt8) (type : ProtocolType) :
    (DetectionAgrees now data ↔ hasPrefix data "HEAD " = false ∧ hasPrefix data "OPTIONS " = false) ∧
      (Dispatched type ↔ type ≠ .tcp) := by
  refine ⟨?_,dispatched_iff type⟩
  constructor
  · intro agrees
    exact (http_agrees_iff data).mp agrees.http
  · intro apart
    refine ⟨(http_agrees_iff data).mpr apart,fun processor => detected_processes now,?_⟩
    apply (unknown_refused_iff data).mpr
    intro both
    rw [apart.1] at both
    exact absurd both.1 Bool.false_ne_true

theorem head_request_missed : ¬ DetectionAgrees 0 (ascii "HEAD / HTTP/1.1") ∧ ¬ Dispatched .tcp := by
  constructor
  · intro agrees
    exact absurd (agrees.http.mpr (by decide)) (by decide)
  · intro reached
    obtain ⟨data,tcp⟩ := reached tcpProcessor rfl
    exact detected_ne_tcp data tcp

theorem processPacket_registered (now : ℤ) (src dst : String)
    (registered : newProtocolHandler.handlers.get (detectProtocol data) = some processor) :
    (newProtocolHandler.processPacket now data src dst).2 = none := by
  have done := (detected_processes now registered).2
  unfold processPacket
  rw [registered]
  generalize outcome : processor.process now data = processed at done
  obtain ⟨result,err⟩ := processed
  cases done
  simp [outcome]

theorem processPacket_done (now : ℤ) (data : List UInt8) (src dst : String) :
    (newProtocolHandler.processPacket now data src dst).2 = none ↔ detectProtocol data ≠ .unknown := by
  constructor
  · intro done unknown
    unfold processPacket at done
    rw [unknown] at done
    cases done
  · intro known
    obtain kind | kind | kind | kind := detected_cases data
    · exact processPacket_registered now src dst (by rw [kind]; rfl)
    · exact processPacket_registered now src dst (by rw [kind]; rfl)
    · exact processPacket_registered now src dst (by rw [kind]; rfl)
    · exact absurd kind known

end PhantomFlow.Network
