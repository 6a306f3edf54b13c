/-
This file says what the two passes over the reports leave of each field of the
statistics. The sums take a share of every report, in any order; the flag of the
round trip time is set by the first report of one, the flag of the video buffer by
the last inbound video report, and the selected pair is the first of those with
the greatest score.
-/

import Mathlib.Data.List.Induction
import RemoteControl.Library.Ranking
import RemoteControl.Peer.Statistics

namespace RemoteControl.Peer

open Ranking DoubleArithmetic

section

variable {Double : Type} [DoubleArithmetic Double]

/-! ### What the reports tell -/

namespace MediaRTCStats

/-- The report defines a number under a name. -/
def Defines (report : MediaRTCStats Double) (name : String) : Prop :=
  (report.numericMember (bytes name)).isSome

instance (report : MediaRTCStats Double) (name : String) : Decidable (report.Defines name) :=
  inferInstanceAs (Decidable (_ = true))

/-- The other peer reports a round trip time. -/
def ReportsRoundTripTime (report : MediaRTCStats Double) : Prop :=
  report.type = bytes "remote-inbound-rtp" ∧ report.Defines "roundTripTime"

/-- A candidate pair measures a round trip time. -/
def MeasuresRoundTripTime (report : MediaRTCStats Double) : Prop :=
  report.Defines "currentRoundTripTime" ∨ report.Defines "googRtt"

/-- The report is of an inbound video stream. -/
def IsInboundVideo (report : MediaRTCStats Double) : Prop :=
  report.IsInbound ∧ report.kind = bytes "video"

/-- The report tells of a buffer. -/
def ReportsBuffer (report : MediaRTCStats Double) : Prop :=
  report.Defines "jitterBufferDelay" ∧ report.Defines "jitterBufferEmittedCount" ∨
    report.Defines "googCurrentDelayMs"

instance (report : MediaRTCStats Double) : Decidable report.ReportsRoundTripTime :=
  inferInstanceAs (Decidable (_ ∧ _))

instance (report : MediaRTCStats Double) : Decidable report.MeasuresRoundTripTime :=
  inferInstanceAs (Decidable (_ ∨ _))

instance (report : MediaRTCStats Double) : Decidable report.IsInboundVideo :=
  inferInstanceAs (Decidable (_ ∧ _))

instance (report : MediaRTCStats Double) : Decidable report.ReportsBuffer :=
  inferInstanceAs (Decidable (_ ∧ _ ∨ _))

end MediaRTCStats

/-- The id of the selected pair: the last one that a transport names. -/
def selectedPairId (reports : List (Option (MediaRTCStats Double))) : ByteString :=
  (((reports.reduceOption.filter fun report => report.type = bytes "transport").map
    fun report => report.stringMember (bytes "selectedCandidatePairId")).filter
      fun id => id ≠ []).getLast?.getD []

/-- The first of the pairs with the greatest score, if any has a score. -/
def bestPair (id : ByteString) (reports : List (MediaRTCStats Double)) :
    Option (MediaRTCStats Double) :=
  firstGreatest (fun report => report.score id)
    (reports.filter fun report => report.IsPair ∧ 0 ≤ report.score id)

/-- The selected pair. -/
def selectedPair (reports : List (Option (MediaRTCStats Double))) :
    Option (MediaRTCStats Double) :=
  bestPair (selectedPairId reports) reports.reduceOption

/-- The sums over the streams. -/
@[ext]
structure Totals where
  videoBytesReceived : UInt64 := 0
  audioBytesReceived : UInt64 := 0
  videoPacketsReceived : UInt64 := 0
  audioPacketsReceived : UInt64 := 0
  videoPacketsLost : Int64 := 0
  audioPacketsLost : Int64 := 0
  videoFramesDecoded : UInt64 := 0

def PeerConnectionStats.totals (result : PeerConnectionStats Double) : Totals where
  videoBytesReceived := result.videoBytesReceived
  audioBytesReceived := result.audioBytesReceived
  videoPacketsReceived := result.videoPacketsReceived
  audioPacketsReceived := result.audioPacketsReceived
  videoPacketsLost := result.videoPacketsLost
  audioPacketsLost := result.audioPacketsLost
  videoFramesDecoded := result.videoFramesDecoded

/-! ### One report of the second pass -/

namespace MediaRTCStats

omit [DoubleArithmetic Double] in
theorem IsInbound.not_isPair {report : MediaRTCStats Double} (inbound : report.IsInbound) :
    ¬ report.IsPair := by
  rintro (pair | pair) <;> rcases inbound with inbound | inbound <;>
    exact absurd (inbound.symm.trans pair) (by decide)

omit [DoubleArithmetic Double] in
theorem not_isInbound_of_remote {report : MediaRTCStats Double}
    (remote : report.type = bytes "remote-inbound-rtp") : ¬ report.IsInbound := by
  rintro (inbound | inbound) <;> exact absurd (remote.symm.trans inbound) (by decide)

omit [DoubleArithmetic Double] in
theorem not_isPair_of_remote {report : MediaRTCStats Double}
    (remote : report.type = bytes "remote-inbound-rtp") : ¬ report.IsPair := by
  rintro (pair | pair) <;> exact absurd (remote.symm.trans pair) (by decide)

theorem isSome_unsignedMember (report : MediaRTCStats Double) (name : String) :
    (report.unsignedMember (bytes name)).isSome ↔ report.Defines name := by
  rw [unsignedMember, Option.isSome_map]
  rfl

end MediaRTCStats

namespace SecondPass

/-- What the second pass makes of a report, by its type. -/
inductive Visited (id : ByteString) (pass : SecondPass Double) (report : MediaRTCStats Double) :
    SecondPass Double → Prop where
  | counted (inbound : report.IsInbound) :
      Visited id pass report { pass with result := pass.result.countInbound report }
  | timed (remote : report.type = bytes "remote-inbound-rtp")
      (unset : lessEqual pass.result.roundTripTimeMs (ofInt 0)) :
      Visited id pass report { pass with result := pass.result.noteRoundTripTime report }
  | considered (isPair : report.IsPair) :
      Visited id pass report (pass.considerPair id report)
  | skipped (notInbound : ¬ report.IsInbound) (notPair : ¬ report.IsPair)
      (late : report.type = bytes "remote-inbound-rtp" →
        ¬ lessEqual pass.result.roundTripTimeMs (ofInt 0)) :
      Visited id pass report pass

theorem visited (id : ByteString) (pass : SecondPass Double) (report : MediaRTCStats Double) :
    Visited id pass report (pass.visit id report) := by
  rw [visit]
  split
  · rename_i inbound
    exact .counted inbound
  · rename_i notInbound
    split
    · rename_i remote
      exact .timed remote.1 remote.2
    · rename_i late
      split
      · rename_i isPair
        exact .considered isPair
      · rename_i notPair
        exact .skipped notInbound notPair fun remote unset => late ⟨remote, unset⟩

end SecondPass

/-! ### The sums -/

instance : Add Totals where
  add first second := {
    videoBytesReceived := first.videoBytesReceived + second.videoBytesReceived
    audioBytesReceived := first.audioBytesReceived + second.audioBytesReceived
    videoPacketsReceived := first.videoPacketsReceived + second.videoPacketsReceived
    audioPacketsReceived := first.audioPacketsReceived + second.audioPacketsReceived
    videoPacketsLost := first.videoPacketsLost + second.videoPacketsLost
    audioPacketsLost := first.audioPacketsLost + second.audioPacketsLost
    videoFramesDecoded := first.videoFramesDecoded + second.videoFramesDecoded }

namespace Totals

theorem add_eq (first second : Totals) :
    first + second =
      ⟨first.videoBytesReceived + second.videoBytesReceived,
        first.audioBytesReceived + second.audioBytesReceived,
        first.videoPacketsReceived + second.videoPacketsReceived,
        first.audioPacketsReceived + second.audioPacketsReceived,
        first.videoPacketsLost + second.videoPacketsLost,
        first.audioPacketsLost + second.audioPacketsLost,
        first.videoFramesDecoded + second.videoFramesDecoded⟩ := rfl

theorem add_right_comm (first second third : Totals) :
    first + second + third = first + third + second := by
  simp only [add_eq, mk.injEq]
  refine ⟨?_, ?_, ?_, ?_, ?_, ?_, ?_⟩ <;> ac_rfl

theorem add_default (totals : Totals) : totals + {} = totals := by
  simp only [add_eq, UInt64.add_zero, Int64.add_zero]

end Totals

/-- What a report adds to the sums. -/
def MediaRTCStats.share (report : MediaRTCStats Double) : Totals :=
  if ¬ report.IsInbound then {}
  else if report.kind = bytes "video" then
    { videoBytesReceived := (report.unsignedMember (bytes "bytesReceived")).getD 0
      videoPacketsReceived := (report.unsignedMember (bytes "packetsReceived")).getD 0
      videoPacketsLost := (report.signedMember (bytes "packetsLost")).getD 0
      videoFramesDecoded := (report.unsignedMember (bytes "framesDecoded")).getD 0 }
  else if report.kind = bytes "audio" then
    { audioBytesReceived := (report.unsignedMember (bytes "bytesReceived")).getD 0
      audioPacketsReceived := (report.unsignedMember (bytes "packetsReceived")).getD 0
      audioPacketsLost := (report.signedMember (bytes "packetsLost")).getD 0 }
  else {}

namespace PeerConnectionStats

variable (result : PeerConnectionStats Double) (report : MediaRTCStats Double)

theorem totals_countBuffer : (result.countBuffer report).totals = result.totals := by
  rw [countBuffer]
  split <;> rfl

theorem totals_noteRoundTripTime : (result.noteRoundTripTime report).totals = result.totals := by
  rw [noteRoundTripTime]
  split <;> rfl

theorem totals_countInbound (inbound : report.IsInbound) :
    (result.countInbound report).totals = result.totals + report.share := by
  rw [countInbound, MediaRTCStats.share, if_neg (not_not_intro inbound)]
  split
  · rw [countVideo, totals_countBuffer]
    exact Totals.ext rfl (UInt64.add_zero _).symm rfl (UInt64.add_zero _).symm rfl
      (Int64.add_zero _).symm rfl
  · split
    · exact Totals.ext (UInt64.add_zero _).symm rfl (UInt64.add_zero _).symm rfl
        (Int64.add_zero _).symm rfl (UInt64.add_zero _).symm
    · exact (Totals.add_default _).symm

theorem totals_applyPair (candidates : Table ByteString CandidateInfo) :
    (result.applyPair candidates report).totals = result.totals := by
  rw [applyPair]
  split <;> rfl

end PeerConnectionStats

namespace SecondPass

variable {id : ByteString} {pass after : SecondPass Double} {report : MediaRTCStats Double}

theorem result_considerPair : (pass.considerPair id report).result = pass.result := by
  rw [considerPair]
  split <;> rfl

theorem Visited.totals (visited : Visited id pass report after) :
    after.result.totals = pass.result.totals + report.share := by
  cases visited with
  | counted inbound => exact pass.result.totals_countInbound report inbound
  | timed remote unset =>
    rw [PeerConnectionStats.totals_noteRoundTripTime, MediaRTCStats.share,
      if_pos (MediaRTCStats.not_isInbound_of_remote remote), Totals.add_default]
  | considered isPair =>
    rw [result_considerPair, MediaRTCStats.share,
      if_pos fun inbound => inbound.not_isPair isPair, Totals.add_default]
  | skipped notInbound notPair late =>
    rw [MediaRTCStats.share, if_pos notInbound, Totals.add_default]

end SecondPass

theorem totals_secondPass (now : Int64) (reports : List (Option (MediaRTCStats Double))) :
    (secondPass now reports).result.totals =
      reports.reduceOption.foldl (fun totals report => totals + report.share) {} := by
  refine (List.foldl_hom (fun pass : SecondPass Double => pass.result.totals)
    fun pass report => ?_).symm
  exact (SecondPass.visited _ pass report).totals.symm

/-- The sums do not depend on the order of the reports. -/
theorem totals_secondPass_perm (now : Int64)
    {reports reports' : List (Option (MediaRTCStats Double))} (perm : reports'.Perm reports) :
    (secondPass now reports').result.totals = (secondPass now reports).result.totals := by
  rw [totals_secondPass, totals_secondPass]
  have present : reports'.reduceOption.Perm reports.reduceOption := perm.filterMap id
  exact present.foldl_eq' (fun first _ second _ totals =>
    Totals.add_right_comm totals first.share second.share) {}

/-! ### The round trip time -/

namespace PeerConnectionStats

/-- The fields of the round trip time. -/
def roundTrip (result : PeerConnectionStats Double) : Bool × Double :=
  (result.roundTripTimeAvailable, result.roundTripTimeMs)

theorem roundTrip_countInbound (result : PeerConnectionStats Double)
    (report : MediaRTCStats Double) :
    (result.countInbound report).roundTrip = result.roundTrip := by
  have buffer (result : PeerConnectionStats Double) :
      (result.countBuffer report).roundTrip = result.roundTrip := by
    rw [countBuffer]
    split <;> rfl
  rw [countInbound]
  split
  · rw [countVideo, buffer]
    rfl
  · split <;> rfl

end PeerConnectionStats

namespace SecondPass

variable {id : ByteString} {pass after : SecondPass Double} {report : MediaRTCStats Double}

/-- As long as no round trip time is known, its field is zero, so that a report may set it. -/
def AwaitsRoundTripTime (pass : SecondPass Double) : Prop :=
  pass.result.roundTripTimeAvailable = false → pass.result.roundTripTimeMs = ofInt 0

theorem Visited.roundTrip (visited : Visited id pass report after)
    (awaits : pass.AwaitsRoundTripTime) :
    after.AwaitsRoundTripTime ∧ (after.result.roundTripTimeAvailable ↔
      pass.result.roundTripTimeAvailable ∨ report.ReportsRoundTripTime) := by
  -- a report that leaves both fields and is no report of a round trip time changes nothing
  have unchanged (same : after.result.roundTrip = pass.result.roundTrip)
      (silent : ¬ report.ReportsRoundTripTime) : after.AwaitsRoundTripTime ∧
        (after.result.roundTripTimeAvailable ↔
          pass.result.roundTripTimeAvailable ∨ report.ReportsRoundTripTime) := by
    obtain ⟨flag, time⟩ := Prod.mk.inj same
    rw [AwaitsRoundTripTime, flag, time, or_iff_left silent]
    exact ⟨awaits, Iff.rfl⟩
  cases visited with
  | counted inbound =>
    exact unchanged (pass.result.roundTrip_countInbound report) fun reports =>
      MediaRTCStats.not_isInbound_of_remote reports.1 inbound
  | timed remote unset =>
    cases measured : report.numericMember (bytes "roundTripTime") with
    | none =>
      have silent : ¬ report.ReportsRoundTripTime := by
        rintro ⟨-, defines⟩
        rw [MediaRTCStats.Defines, measured] at defines
        exact Bool.noConfusion defines
      refine unchanged ?_ silent
      simp only [PeerConnectionStats.noteRoundTripTime, measured]
    | some roundTripTime =>
      have reports : report.ReportsRoundTripTime := by
        refine ⟨remote, ?_⟩
        rw [MediaRTCStats.Defines, measured]
        rfl
      simp only [AwaitsRoundTripTime, PeerConnectionStats.noteRoundTripTime, measured]
      exact ⟨fun unknown => Bool.noConfusion unknown, iff_of_true trivial (Or.inr reports)⟩
  | considered isPair =>
    refine unchanged (by rw [result_considerPair]) fun reports => ?_
    exact MediaRTCStats.not_isPair_of_remote reports.1 isPair
  | skipped notInbound notPair late =>
    by_cases known : pass.result.roundTripTimeAvailable
    · exact ⟨awaits, iff_of_true known (Or.inl known)⟩
    · refine unchanged rfl fun reports => late reports.1 ?_
      rw [awaits (Bool.eq_false_iff.mpr known)]
      exact zero_lessEqual_zero

theorem roundTrip_foldl (reports : List (MediaRTCStats Double))
    (awaits : pass.AwaitsRoundTripTime) :
    (reports.foldl (visit id) pass).result.roundTripTimeAvailable ↔
      pass.result.roundTripTimeAvailable ∨
        ∃ report ∈ reports, report.ReportsRoundTripTime := by
  induction reports generalizing pass with
  | nil => simp only [List.foldl_nil, List.not_mem_nil, false_and, exists_false, or_false]
  | cons report rest ih =>
    obtain ⟨awaitsNext, next⟩ := (visited id pass report).roundTrip awaits
    rw [List.foldl_cons, ih awaitsNext, next, or_assoc]
    simp only [List.mem_cons, exists_eq_or_imp]

end SecondPass

theorem roundTrip_secondPass (now : Int64) (reports : List (Option (MediaRTCStats Double))) :
    (secondPass now reports).result.roundTripTimeAvailable ↔
      ∃ report, some report ∈ reports ∧ report.ReportsRoundTripTime := by
  rw [secondPass, SecondPass.roundTrip_foldl _ fun _ => rfl]
  simp only [Bool.false_eq_true, false_or, List.reduceOption_mem_iff]

/-! ### The video buffer -/

theorem PeerConnectionStats.videoBuffer_countBuffer (result : PeerConnectionStats Double)
    (report : MediaRTCStats Double) :
    (result.countBuffer report).videoBufferAvailable = decide report.ReportsBuffer := by
  have count := report.isSome_unsignedMember "jitterBufferEmittedCount"
  rw [countBuffer]
  split
  · rename_i delay number delayed counted
    have both : report.Defines "jitterBufferDelay" ∧ report.Defines "jitterBufferEmittedCount" := by
      rw [MediaRTCStats.Defines, delayed, ← count, counted]
      exact ⟨rfl, rfl⟩
    exact (decide_eq_true (Or.inl both)).symm
  · rename_i missing
    have notBoth :
        ¬ (report.Defines "jitterBufferDelay" ∧ report.Defines "jitterBufferEmittedCount") := by
      rintro ⟨delayed, counted⟩
      obtain ⟨delay, delayed⟩ := Option.isSome_iff_exists.mp delayed
      obtain ⟨number, counted⟩ := Option.isSome_iff_exists.mp (count.mpr counted)
      exact missing delay number delayed counted
    rw [Bool.eq_iff_iff, decide_eq_true_iff, MediaRTCStats.ReportsBuffer, or_iff_right notBoth]
    exact Iff.rfl

namespace SecondPass

variable {id : ByteString} {pass after : SecondPass Double} {report : MediaRTCStats Double}

/-- Every inbound video report overwrites the flag of the buffer, and no other report does. -/
theorem Visited.videoBuffer (visited : Visited id pass report after) :
    after.result.videoBufferAvailable =
      if report.IsInboundVideo then decide report.ReportsBuffer
      else pass.result.videoBufferAvailable := by
  cases visited with
  | counted inbound =>
    by_cases video : report.kind = bytes "video"
    · rw [if_pos ⟨inbound, video⟩]
      simp only [PeerConnectionStats.countInbound, if_pos video, PeerConnectionStats.countVideo,
        PeerConnectionStats.videoBuffer_countBuffer]
    · rw [if_neg fun both => video both.2]
      simp only [PeerConnectionStats.countInbound, if_neg video]
      split <;> rfl
  | timed remote unset =>
    rw [if_neg fun both => MediaRTCStats.not_isInbound_of_remote remote both.1]
    simp only [PeerConnectionStats.noteRoundTripTime]
    split <;> rfl
  | considered isPair => rw [if_neg fun both => both.1.not_isPair isPair, result_considerPair]
  | skipped notInbound notPair late => rw [if_neg fun both => notInbound both.1]

end SecondPass

/-- The last inbound video report decides on the flag of the buffer. -/
theorem videoBuffer_secondPass (now : Int64) (reports : List (Option (MediaRTCStats Double))) :
    (secondPass now reports).result.videoBufferAvailable =
      (((reports.reduceOption.filter fun report => report.IsInboundVideo).getLast?.map
        fun report => decide report.ReportsBuffer).getD false) := by
  rw [secondPass]
  induction reports.reduceOption using List.reverseRecOn with
  | nil => rfl
  | append_singleton rest report ih =>
    rw [List.foldl_append, List.foldl_cons, List.foldl_nil,
      (SecondPass.visited _ _ report).videoBuffer, List.filter_append]
    by_cases video : report.IsInboundVideo
    · rw [if_pos video, List.filter_singleton, decide_eq_true video]
      simp
    · rw [if_neg video, List.filter_singleton, decide_eq_false video, ih]
      simp

/-! ### The selected pair of both passes -/

omit [DoubleArithmetic Double] in
theorem selectedPairId_firstPass (reports : List (Option (MediaRTCStats Double))) :
    (firstPass reports).selectedPairId = selectedPairId reports := by
  rw [firstPass, selectedPairId]
  induction reports.reduceOption using List.reverseRecOn with
  | nil => rfl
  | append_singleton rest report ih =>
    rw [List.foldl_append, List.foldl_cons, List.foldl_nil, FirstPass.visit]
    simp only [List.filter_append, List.filter_singleton, List.map_append]
    by_cases transport : report.type = bytes "transport"
    · rw [if_pos transport]
      by_cases unnamed : report.stringMember (bytes "selectedCandidatePairId") = []
      · simp [transport, unnamed, ih]
      · simp [transport, unnamed]
    · rw [if_neg transport]
      by_cases candidate :
          report.type = bytes "local-candidate" ∨ report.type = bytes "remote-candidate"
      · simp [transport, if_pos candidate, ih]
      · simp [transport, if_neg candidate, ih]

omit [DoubleArithmetic Double] in
theorem bestPair_concat (id : ByteString) (reports : List (MediaRTCStats Double))
    (report : MediaRTCStats Double) :
    bestPair id (reports ++ [report]) =
      if report.IsPair ∧ ((bestPair id reports).map fun best => best.score id).getD (-1) <
        report.score id then some report
      else bestPair id reports := by
  rw [bestPair, List.filter_append, List.filter_singleton]
  by_cases isScored : report.IsPair ∧ 0 ≤ report.score id
  · rw [decide_eq_true isScored, cond_true]
    cases chosen : bestPair id reports with
    | none =>
      have better : -1 < report.score id := by omega
      rw [if_pos ⟨isScored.1, better⟩, firstGreatest_eq_none_iff.mp chosen]
      exact firstGreatest_concat_of_lt fun _ absent => absurd absent List.not_mem_nil
    | some pair =>
      rw [Option.map_some, Option.getD_some]
      by_cases better : pair.score id < report.score id
      · rw [if_pos ⟨isScored.1, better⟩]
        exact firstGreatest_concat_of_lt fun other among =>
          (le_of_firstGreatest chosen other among).trans_lt better
      · rw [if_neg fun both => better both.2]
        exact firstGreatest_concat_of_le chosen (not_lt.mp better)
  · rw [decide_eq_false isScored, cond_false, List.append_nil, ← bestPair, if_neg]
    rintro ⟨isPair, better⟩
    refine isScored ⟨isPair, ?_⟩
    cases chosen : bestPair id reports with
    | none =>
      rw [chosen, Option.map_none, Option.getD_none] at better
      omega
    | some pair =>
      have among := mem_of_firstGreatest chosen
      rw [List.mem_filter, decide_eq_true_iff] at among
      rw [chosen, Option.map_some, Option.getD_some] at better
      exact among.2.2.trans better.le

namespace SecondPass

variable {id : ByteString} {pass after : SecondPass Double} {report : MediaRTCStats Double}

/-- The selected pair and its score. -/
def selection (pass : SecondPass Double) : Option (MediaRTCStats Double) × Int :=
  (pass.selectedPair, pass.selectedPairScore)

theorem Visited.selection (visited : Visited id pass report after) :
    after.selection =
      if report.IsPair ∧ pass.selectedPairScore < report.score id then
        (some report, report.score id)
      else pass.selection := by
  cases visited with
  | counted inbound => rw [if_neg fun both => inbound.not_isPair both.1]; rfl
  | timed remote unset =>
    rw [if_neg fun both => MediaRTCStats.not_isPair_of_remote remote both.1]
    rfl
  | considered isPair =>
    rw [considerPair]
    by_cases better : pass.selectedPairScore < report.score id
    · rw [if_pos better, if_pos ⟨isPair, better⟩]
      rfl
    · rw [if_neg better, if_neg fun both => better both.2]
  | skipped notInbound notPair late => rw [if_neg fun both => notPair both.1]

theorem selection_foldl (id : ByteString) (result : PeerConnectionStats Double)
    (reports : List (MediaRTCStats Double)) :
    (reports.foldl (visit id) ⟨result, none, -1⟩).selection =
      (bestPair id reports, ((bestPair id reports).map fun best => best.score id).getD (-1)) := by
  induction reports using List.reverseRecOn with
  | nil => rfl
  | append_singleton rest report ih =>
    have score : (rest.foldl (visit id) ⟨result, none, -1⟩).selectedPairScore =
        ((bestPair id rest).map fun best => best.score id).getD (-1) := congrArg Prod.snd ih
    rw [List.foldl_append, List.foldl_cons, List.foldl_nil, (visited _ _ report).selection, ih,
      score, bestPair_concat]
    by_cases better : report.IsPair ∧
        ((bestPair id rest).map fun best => best.score id).getD (-1) < report.score id
    · simp only [if_pos better, Option.map_some, Option.getD_some]
    · simp only [if_neg better]

end SecondPass

theorem selectedPair_secondPass (now : Int64) (reports : List (Option (MediaRTCStats Double))) :
    (secondPass now reports).selectedPair = selectedPair reports := by
  rw [secondPass, selectedPairId_firstPass]
  exact congrArg Prod.fst (SecondPass.selection_foldl _ _ _)

end

end RemoteControl.Peer
