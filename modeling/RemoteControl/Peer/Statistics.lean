/-
This file models `CollectPeerConnectionStats`, which makes one record of the
reports of a peer connection in two passes: the first collects the candidates and
the id of the selected pair, the second the streams and the pair itself, which is
applied last. The member functions are modelled on a report that is not null: both
passes skip the others.
-/

import Mathlib.Data.List.ReduceOption
import RemoteControl.Library.Table
import RemoteControl.Signaling.Json

namespace RemoteControl.Peer

/-! ### Reports -/

/-- The arithmetic of `double`, of which only one comparison is relied on. -/
class DoubleArithmetic (Double : Type) where
  ofInt : Int → Double
  add : Double → Double → Double
  mul : Double → Double → Double
  greater : Double → Double → Bool
  lessEqual : Double → Double → Bool
  toInt32 : Double → Int32
  toInt64 : Double → Int64
  toUInt64 : Double → UInt64
  zero_lessEqual_zero : lessEqual (ofInt 0) (ofInt 0) = true

/-- The value of a member, of the type that `GetType` tells. -/
inductive RTCStatsValue (Double : Type) where
  | bool (value : Bool)
  | int32 (value : Int32)
  | uint32 (value : UInt32)
  | int64 (value : Int64)
  | uint64 (value : UInt64)
  | double (value : Double)
  | string (value : ByteString)
  | sequenceOrMap

/-- `RTCStatsMember`. -/
structure RTCStatsMember (Double : Type) where
  name : ByteString
  isDefined : Bool := true
  value : RTCStatsValue Double

/-- `MediaRTCStats`: a report, with members that may be null. -/
structure MediaRTCStats (Double : Type) where
  id : ByteString
  type : ByteString
  members : List (Option (RTCStatsMember Double))

/-- `PeerConnectionStats`. -/
structure PeerConnectionStats (Double : Type) [DoubleArithmetic Double] where
  videoStatsAvailable : Bool := false
  audioStatsAvailable : Bool := false
  videoJitterAvailable : Bool := false
  audioJitterAvailable : Bool := false
  videoBufferAvailable : Bool := false
  roundTripTimeAvailable : Bool := false
  availableIncomingBitrateAvailable : Bool := false
  sampleTimeUs : Int64 := 0
  videoBytesReceived : UInt64 := 0
  audioBytesReceived : UInt64 := 0
  videoPacketsReceived : UInt64 := 0
  audioPacketsReceived : UInt64 := 0
  videoPacketsLost : Int64 := 0
  audioPacketsLost : Int64 := 0
  videoFramesDecoded : UInt64 := 0
  videoFramesPerSecond : Double := DoubleArithmetic.ofInt 0
  videoWidth : Int32 := 0
  videoHeight : Int32 := 0
  videoJitterMs : Double := DoubleArithmetic.ofInt 0
  audioJitterMs : Double := DoubleArithmetic.ofInt 0
  videoJitterBufferDelaySeconds : Double := DoubleArithmetic.ofInt 0
  videoJitterBufferEmittedCount : UInt64 := 0
  videoPlayoutDelayMs : Double := DoubleArithmetic.ofInt 0
  roundTripTimeMs : Double := DoubleArithmetic.ofInt 0
  availableIncomingBitrateBps : Double := DoubleArithmetic.ofInt 0
  iceRoute : ByteString := []

section

variable {Double : Type} [DoubleArithmetic Double]

open DoubleArithmetic

/-- The number a member holds, if its type is one of numbers. -/
def RTCStatsValue.number : RTCStatsValue Double → Option Double
  | .int32 value => some (ofInt value.toInt)
  | .uint32 value => some (ofInt value.toNat)
  | .int64 value => some (ofInt value.toInt)
  | .uint64 value => some (ofInt value.toNat)
  | .double value => some value
  | .bool _ | .string _ | .sequenceOrMap => none

def RTCStatsValue.text : RTCStatsValue Double → Option ByteString
  | .string value => some value
  | _ => none

def RTCStatsValue.flag : RTCStatsValue Double → Option Bool
  | .bool value => some value
  | _ => none

/-- Seconds as milliseconds. -/
def milliseconds (seconds : Double) : Double := mul seconds (ofInt 1000)

namespace MediaRTCStats

/-- The members that are defined under a name, in the order of the report. -/
def named (report : MediaRTCStats Double) (name : ByteString) : List (RTCStatsMember Double) :=
  report.members.reduceOption.filter fun member => member.isDefined && member.name == name

/-- `NumericMember`: the first member of the name decides; no value stands for `found` unset. -/
def numericMember (report : MediaRTCStats Double) (name : ByteString) : Option Double :=
  (report.named name).head?.bind fun member => member.value.number

/-- `NumericMemberFallback`. -/
def numericMemberFallback (report : MediaRTCStats Double) (primaryName fallbackName : ByteString) :
    Option Double :=
  (report.numericMember primaryName).or (report.numericMember fallbackName)

/-- `UnsignedMember`. -/
def unsignedMember (report : MediaRTCStats Double) (name : ByteString) : Option UInt64 :=
  (report.numericMember name).map fun value => if greater value (ofInt 0) then toUInt64 value else 0

/-- `SignedMember`. -/
def signedMember (report : MediaRTCStats Double) (name : ByteString) : Option Int64 :=
  (report.numericMember name).map toInt64

/-- `StringMember`: the first member of the name that is a string. -/
def stringMember (report : MediaRTCStats Double) (name : ByteString) : ByteString :=
  ((report.named name).findSome? fun member => member.value.text).getD []

/-- `BoolMember`: the first member of the name that is a `bool`. -/
def boolMember (report : MediaRTCStats Double) (name : ByteString) : Bool :=
  ((report.named name).findSome? fun member => member.value.flag).getD false

end MediaRTCStats

/-! ### The first pass -/

/-- `CandidateInfo`. -/
structure CandidateInfo where
  type : ByteString
  protocol : ByteString

/-- What the first pass collects. -/
structure FirstPass where
  candidates : Table ByteString CandidateInfo := ∅
  selectedPairId : ByteString := []

/-- One report of the first pass. -/
def FirstPass.visit (pass : FirstPass) (report : MediaRTCStats Double) : FirstPass :=
  if report.type = bytes "transport" then
    let id := report.stringMember (bytes "selectedCandidatePairId")
    if id ≠ [] then { pass with selectedPairId := id } else pass
  else if report.type = bytes "local-candidate" ∨ report.type = bytes "remote-candidate" then
    { pass with
      candidates := pass.candidates.emplace .keep report.id
        ⟨report.stringMember (bytes "candidateType"), report.stringMember (bytes "protocol")⟩ }
  else pass

def firstPass (reports : List (Option (MediaRTCStats Double))) : FirstPass :=
  reports.reduceOption.foldl FirstPass.visit {}

/-! ### The second pass -/

namespace MediaRTCStats

/-- The report is of one of the types of inbound streams. -/
def IsInbound (report : MediaRTCStats Double) : Prop :=
  report.type = bytes "inbound-rtp" ∨ report.type = bytes "ssrc"

/-- The report is of one of the types of candidate pairs. -/
def IsPair (report : MediaRTCStats Double) : Prop :=
  report.type = bytes "candidate-pair" ∨ report.type = bytes "googCandidatePair"

instance (report : MediaRTCStats Double) : Decidable report.IsInbound :=
  inferInstanceAs (Decidable (_ ∨ _))

instance (report : MediaRTCStats Double) : Decidable report.IsPair :=
  inferInstanceAs (Decidable (_ ∨ _))

/-- The kind of media of an inbound stream. -/
def kind (report : MediaRTCStats Double) : ByteString :=
  let kind := report.stringMember (bytes "kind")
  if kind = [] then report.stringMember (bytes "mediaType") else kind

/-- The jitter of an inbound stream in milliseconds. -/
def jitterMs (report : MediaRTCStats Double) : Option Double :=
  ((report.numericMember (bytes "jitter")).map milliseconds).or
    (report.numericMember (bytes "googJitterReceived"))

/-- The report counts bytes, packets or losses. -/
def counts (report : MediaRTCStats Double) : Bool :=
  (report.unsignedMember (bytes "bytesReceived")).isSome ||
    (report.unsignedMember (bytes "packetsReceived")).isSome ||
    (report.signedMember (bytes "packetsLost")).isSome

/-- How well a candidate pair fits as the selected one; a negative score never does. -/
def score (report : MediaRTCStats Double) (selectedPairId : ByteString) : Int :=
  if selectedPairId ≠ [] ∧ report.id = selectedPairId then 100
  else if report.boolMember (bytes "selected") then 80
  else if report.stringMember (bytes "googActiveConnection") = bytes "true" then 80
  else if report.boolMember (bytes "nominated") ∧
      report.stringMember (bytes "state") = bytes "succeeded" then 60
  else if report.stringMember (bytes "state") = bytes "succeeded" then 20
  else -1

end MediaRTCStats

namespace PeerConnectionStats

/-- The buffer of an inbound video stream: its members, or else the older one. -/
def countBuffer (result : PeerConnectionStats Double) (report : MediaRTCStats Double) :
    PeerConnectionStats Double :=
  match report.numericMember (bytes "jitterBufferDelay"),
    report.unsignedMember (bytes "jitterBufferEmittedCount") with
  | some delay, some count =>
    { result with
      videoBufferAvailable := true
      videoJitterBufferDelaySeconds := add result.videoJitterBufferDelaySeconds delay
      videoJitterBufferEmittedCount := result.videoJitterBufferEmittedCount + count }
  | _, _ =>
    let legacyDelay := report.numericMember (bytes "googCurrentDelayMs")
    { result with
      videoPlayoutDelayMs := legacyDelay.getD (ofInt 0)
      videoBufferAvailable := legacyDelay.isSome }

/-- An inbound video stream. -/
def countVideo (result : PeerConnectionStats Double) (report : MediaRTCStats Double) :
    PeerConnectionStats Double :=
  let counted :=
    { result with
      videoStatsAvailable := result.videoStatsAvailable || report.counts
      videoBytesReceived :=
        result.videoBytesReceived + (report.unsignedMember (bytes "bytesReceived")).getD 0
      videoPacketsReceived :=
        result.videoPacketsReceived + (report.unsignedMember (bytes "packetsReceived")).getD 0
      videoPacketsLost :=
        result.videoPacketsLost + (report.signedMember (bytes "packetsLost")).getD 0
      videoFramesDecoded :=
        result.videoFramesDecoded + (report.unsignedMember (bytes "framesDecoded")).getD 0
      videoFramesPerSecond := (report.numericMemberFallback (bytes "framesPerSecond")
        (bytes "googFrameRateReceived")).getD (ofInt 0)
      videoWidth := toInt32 ((report.numericMemberFallback (bytes "frameWidth")
        (bytes "googFrameWidthReceived")).getD (ofInt 0))
      videoHeight := toInt32 ((report.numericMemberFallback (bytes "frameHeight")
        (bytes "googFrameHeightReceived")).getD (ofInt 0))
      videoJitterAvailable := result.videoJitterAvailable || report.jitterMs.isSome
      videoJitterMs := report.jitterMs.getD result.videoJitterMs }
  counted.countBuffer report

/-- An inbound audio stream. -/
def countAudio (result : PeerConnectionStats Double) (report : MediaRTCStats Double) :
    PeerConnectionStats Double :=
  { result with
    audioStatsAvailable := result.audioStatsAvailable || report.counts
    audioBytesReceived :=
      result.audioBytesReceived + (report.unsignedMember (bytes "bytesReceived")).getD 0
    audioPacketsReceived :=
      result.audioPacketsReceived + (report.unsignedMember (bytes "packetsReceived")).getD 0
    audioPacketsLost :=
      result.audioPacketsLost + (report.signedMember (bytes "packetsLost")).getD 0
    audioJitterAvailable := result.audioJitterAvailable || report.jitterMs.isSome
    audioJitterMs := report.jitterMs.getD result.audioJitterMs }

/-- An inbound stream of either kind. -/
def countInbound (result : PeerConnectionStats Double) (report : MediaRTCStats Double) :
    PeerConnectionStats Double :=
  if report.kind = bytes "video" then result.countVideo report
  else if report.kind = bytes "audio" then result.countAudio report
  else result

/-- The round trip time that the other peer reports. -/
def noteRoundTripTime (result : PeerConnectionStats Double) (report : MediaRTCStats Double) :
    PeerConnectionStats Double :=
  match report.numericMember (bytes "roundTripTime") with
  | some roundTripTime =>
    { result with
      roundTripTimeAvailable := true
      roundTripTimeMs := milliseconds roundTripTime }
  | none => result

end PeerConnectionStats

/-- What the second pass collects. -/
structure SecondPass (Double : Type) [DoubleArithmetic Double] where
  result : PeerConnectionStats Double
  selectedPair : Option (MediaRTCStats Double) := none
  selectedPairScore : Int := -1

namespace SecondPass

/-- A candidate pair replaces the selected one if its score is greater. -/
def considerPair (selectedPairId : ByteString) (pass : SecondPass Double)
    (report : MediaRTCStats Double) : SecondPass Double :=
  if report.score selectedPairId > pass.selectedPairScore then
    { pass with
      selectedPairScore := report.score selectedPairId
      selectedPair := some report }
  else pass

/-- One report of the second pass. -/
def visit (selectedPairId : ByteString) (pass : SecondPass Double)
    (report : MediaRTCStats Double) : SecondPass Double :=
  if report.IsInbound then { pass with result := pass.result.countInbound report }
  else if report.type = bytes "remote-inbound-rtp" ∧
      lessEqual pass.result.roundTripTimeMs (ofInt 0) then
    { pass with result := pass.result.noteRoundTripTime report }
  else if report.IsPair then pass.considerPair selectedPairId report
  else pass

end SecondPass

/-! ### The selected pair -/

/-- The route that the candidates of the selected pair make. -/
def routeBetween (localCandidate remoteCandidate : Option CandidateInfo) : ByteString :=
  let typeOf (candidate : Option CandidateInfo) := (candidate.map CandidateInfo.type).getD []
  let protocolOf (candidate : Option CandidateInfo) :=
    (candidate.map CandidateInfo.protocol).getD []
  let protocol :=
    if protocolOf localCandidate = [] then protocolOf remoteCandidate else protocolOf localCandidate
  let isOf (type : String) : Bool :=
    typeOf localCandidate = bytes type ∨ typeOf remoteCandidate = bytes type
  let route :=
    if isOf "relay" then bytes "turn-relay"
    else if isOf "srflx" || isOf "prflx" then bytes "stun-direct"
    else bytes "host-direct"
  if protocol ≠ [] then route ++ bytes "/" ++ protocol else route

/-- The selected pair has the last word on the round trip time, the bitrate and the route. -/
def PeerConnectionStats.applyPair (result : PeerConnectionStats Double)
    (candidates : Table ByteString CandidateInfo) (pair : MediaRTCStats Double) :
    PeerConnectionStats Double :=
  let timed :=
    match pair.numericMember (bytes "currentRoundTripTime") with
    | some roundTripTime =>
      { result with
        roundTripTimeAvailable := true
        roundTripTimeMs := milliseconds roundTripTime }
    | none =>
      let legacyRoundTripTime := pair.numericMember (bytes "googRtt")
      { result with
        roundTripTimeMs := legacyRoundTripTime.getD (ofInt 0)
        roundTripTimeAvailable := legacyRoundTripTime.isSome }
  let bitrate := pair.numericMemberFallback (bytes "availableIncomingBitrate")
    (bytes "googAvailableReceiveBandwidth")
  { timed with
    availableIncomingBitrateBps := bitrate.getD (ofInt 0)
    availableIncomingBitrateAvailable := bitrate.isSome
    iceRoute := routeBetween (candidates.lookup (pair.stringMember (bytes "localCandidateId")))
      (candidates.lookup (pair.stringMember (bytes "remoteCandidateId"))) }

/-- The second pass over all reports, at a time of the clock. -/
def secondPass (now : Int64) (reports : List (Option (MediaRTCStats Double))) :
    SecondPass Double :=
  reports.reduceOption.foldl (SecondPass.visit (firstPass reports).selectedPairId)
    ⟨{ sampleTimeUs := now }, none, -1⟩

/-- `CollectPeerConnectionStats`, at a time of the clock. -/
def collectPeerConnectionStats (now : Int64) (reports : List (Option (MediaRTCStats Double))) :
    PeerConnectionStats Double :=
  let pass := secondPass now reports
  match pass.selectedPair with
  | some pair => pass.result.applyPair (firstPass reports).candidates pair
  | none => pass.result

end

end RemoteControl.Peer
