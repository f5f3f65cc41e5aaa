import Mathlib.Data.List.Basic
import RasterText.Output

/-!
# What a write leaves in a sink

A call appends a part of what it is offered and changes nothing else but the
interruptions to come.  So a write that ends without a failure has appended the whole
text, whatever the sink did on the way.  A sink that takes something in every call while
it is not full takes exactly what fits, and fails exactly when something does not fit
(`Wrote`); a sink without a limit takes every text.
-/

namespace RasterText

namespace Sink

/-- The sink `next` is the sink `sink` after it took the bytes `taken`. -/
structure Took (sink next : Sink) (taken : List UInt8) : Prop where
  accepted : next.accepted.toList = sink.accepted.toList ++ taken
  chunk : next.chunk = sink.chunk
  limit : next.limit = sink.limit
  whenFull : next.whenFull = sink.whenFull
  flushFailure : next.flushFailure = sink.flushFailure
  flushes : next.flushes = sink.flushes

theorem Took.refl (sink : Sink) : Took sink sink [] :=
  ⟨by simp, rfl, rfl, rfl, rfl, rfl⟩

theorem Took.trans {a b c : Sink} {first second : List UInt8} (hfirst : Took a b first)
    (hsecond : Took b c second) : Took a c (first ++ second) where
  accepted := by rw [hsecond.accepted, hfirst.accepted, List.append_assoc]
  chunk := hsecond.chunk.trans hfirst.chunk
  limit := hsecond.limit.trans hfirst.limit
  whenFull := hsecond.whenFull.trans hfirst.whenFull
  flushFailure := hsecond.flushFailure.trans hfirst.flushFailure
  flushes := hsecond.flushes.trans hfirst.flushes

def takenBy (bytes : List UInt8) : WriteOutcome → List UInt8
  | .took count => bytes.take count
  | _ => []

theorem portion_eq_take (sink : Sink) (bytes : List UInt8) :
    sink.portion bytes = bytes.take (sink.portion bytes).length := by
  have hfront : ∃ count, sink.portion bytes = bytes.take count := by
    unfold portion
    cases sink.chunk with
    | none =>
        cases sink.limit with
        | none => exact ⟨bytes.length, by simp⟩
        | some limit => exact ⟨_, rfl⟩
    | some chunk =>
        cases sink.limit with
        | none => exact ⟨chunk, rfl⟩
        | some limit => exact ⟨_, List.take_take⟩
  obtain ⟨count, hcount⟩ := hfront
  rw [hcount, List.length_take, ← List.take_eq_take_min]

/-- One call takes what its outcome says. -/
theorem took_of_write {sink next : Sink} {bytes : List UInt8} {outcome : WriteOutcome}
    (h : sink.write bytes = (next, outcome)) : Took sink next (takenBy bytes outcome) := by
  unfold write at h
  split at h
  · obtain ⟨rfl, rfl⟩ := Prod.mk.inj h
    exact ⟨by simp [takenBy], rfl, rfl, rfl, rfl, rfl⟩
  · split at h
    · split at h
      · obtain ⟨rfl, rfl⟩ := Prod.mk.inj h
        exact Took.refl sink
      · obtain ⟨rfl, rfl⟩ := Prod.mk.inj h
        exact Took.refl sink
    · obtain ⟨rfl, rfl⟩ := Prod.mk.inj h
      have hfront := sink.portion_eq_take bytes
      exact ⟨by simp [takenBy, ← hfront], rfl, rfl, rfl, rfl, rfl⟩

/-- Repeated calls take bytes from the front, and all of them unless they fail. -/
theorem took_of_writeAll {sink next : Sink} {bytes : List UInt8} {failure : Option IoFailure}
    (h : sink.writeAll bytes = (next, failure)) :
    ∃ count, Took sink next (bytes.take count) ∧ (failure = none → bytes.length ≤ count) := by
  fun_induction writeAll sink bytes with
  | case1 sink =>
      obtain ⟨rfl, rfl⟩ := Prod.mk.inj h
      exact ⟨0, Took.refl sink, fun _ => Nat.le_refl 0⟩
  | case2 sink byte rest between hcall _ ih =>
      obtain ⟨count, htook, hall⟩ := ih h
      exact ⟨count, (took_of_write hcall).trans htook, hall⟩
  | case3 sink byte rest between stop hcall =>
      obtain ⟨rfl, rfl⟩ := Prod.mk.inj h
      exact ⟨0, took_of_write hcall, by simp⟩
  | case4 sink byte rest between hcall =>
      obtain ⟨rfl, rfl⟩ := Prod.mk.inj h
      exact ⟨0, took_of_write hcall, by simp⟩
  | case5 sink byte rest between count hcall _ ih =>
      obtain ⟨more, htook, hall⟩ := ih h
      refine ⟨count + 1 + more, ?_, ?_⟩
      · rw [List.take_add]
        exact (took_of_write hcall).trans htook
      · intro hnone
        have hmore := hall hnone
        rw [List.length_drop] at hmore
        rw [List.length_cons]
        omega

theorem took_of_writeAll_none {sink next : Sink} {bytes : List UInt8}
    (h : sink.writeAll bytes = (next, none)) : Took sink next bytes := by
  obtain ⟨count, htook, hall⟩ := took_of_writeAll h
  rwa [List.take_of_length_le (hall rfl)] at htook

end Sink

def WhenFull.outcome : WhenFull → WriteOutcome
  | .fail failure => .failed failure
  | .takeNothing => .took 0

def WhenFull.failure : WhenFull → IoFailure
  | .fail failure => failure
  | .takeNothing => .writeZero

theorem WhenFull.failure_of_failed {whenFull : WhenFull} {failure : IoFailure}
    (h : whenFull.outcome = .failed failure) : whenFull.failure = failure := by
  cases whenFull with
  | fail failure => exact WriteOutcome.failed.inj h
  | takeNothing => contradiction

theorem WhenFull.failure_of_took {whenFull : WhenFull} {count : Nat}
    (h : whenFull.outcome = .took count) : count = 0 ∧ whenFull.failure = .writeZero := by
  cases whenFull with
  | fail failure => contradiction
  | takeNothing => exact ⟨(WriteOutcome.took.inj h).symm, rfl⟩

namespace Sink

/-- How many of `count` further bytes a sink takes before it is full. -/
def room (sink : Sink) (count : Nat) : Nat :=
  match sink.limit with
  | none => count
  | some limit => min count (limit - sink.accepted.size)

theorem room_of_none {sink : Sink} (h : sink.limit = none) (count : Nat) :
    sink.room count = count := by
  simp [room, h]

theorem room_of_some {sink : Sink} {limit : Nat} (h : sink.limit = some limit) (count : Nat) :
    sink.room count = min count (limit - sink.accepted.size) := by
  simp [room, h]

theorem room_le (sink : Sink) (count : Nat) : sink.room count ≤ count := by
  cases hlimit : sink.limit with
  | none => exact Nat.le_of_eq (room_of_none hlimit count)
  | some limit =>
      rw [room_of_some hlimit]
      exact Nat.min_le_left ..

theorem room_of_le (sink : Sink) {count total : Nat} (h : count ≤ total) :
    sink.room count = min count (sink.room total) := by
  cases hlimit : sink.limit with
  | none =>
      rw [room_of_none hlimit, room_of_none hlimit]
      omega
  | some limit =>
      rw [room_of_some hlimit, room_of_some hlimit]
      omega

theorem Took.room {sink next : Sink} {taken : List UInt8} (h : Took sink next taken)
    (count : Nat) : next.room count = sink.room (taken.length + count) - taken.length := by
  have hsize : next.accepted.size = sink.accepted.size + taken.length := by
    simp only [← Array.length_toList, h.accepted, List.length_append]
  cases hlimit : sink.limit with
  | none =>
      rw [room_of_none hlimit, room_of_none (h.limit.trans hlimit)]
      omega
  | some limit =>
      rw [room_of_some hlimit, room_of_some (h.limit.trans hlimit), hsize]
      omega

theorem room_eq_zero_of_isFull {sink : Sink} (h : sink.isFull = true) (count : Nat) :
    sink.room count = 0 := by
  unfold isFull at h
  cases hlimit : sink.limit with
  | none => simp [hlimit] at h
  | some limit =>
      simp only [hlimit, decide_eq_true_eq] at h
      rw [room_of_some hlimit]
      omega

theorem length_portion_of_not_isFull {sink : Sink} (hchunk : sink.chunk ≠ some 0)
    (hopen : ¬ sink.isFull = true) {bytes : List UInt8} (hbytes : bytes ≠ []) :
    0 < (sink.portion bytes).length ∧
      (sink.portion bytes).length ≤ sink.room bytes.length := by
  have hpos : 0 < bytes.length := List.length_pos_iff.2 hbytes
  have hchunked : ∀ chunk, sink.chunk = some chunk → 0 < chunk := by
    intro chunk hcase
    refine Nat.pos_of_ne_zero ?_
    rintro rfl
    exact hchunk hcase
  unfold isFull at hopen
  cases hlimit : sink.limit with
  | none =>
      rw [room_of_none hlimit]
      cases hcase : sink.chunk with
      | none => simpa [portion, hlimit, hcase] using hpos
      | some chunk =>
          have hchunk := hchunked chunk hcase
          simp only [portion, hlimit, hcase, List.length_take]
          omega
  | some limit =>
      rw [room_of_some hlimit]
      simp only [hlimit, decide_eq_true_eq] at hopen
      cases hcase : sink.chunk with
      | none =>
          simp only [portion, hlimit, hcase, List.length_take]
          omega
      | some chunk =>
          have hchunk := hchunked chunk hcase
          simp only [portion, hlimit, hcase, List.length_take]
          omega

/-- A call that is not interrupted finds the sink full, or takes bytes that it has room
for. -/
theorem write_outcome {sink next : Sink} {bytes : List UInt8} {outcome : WriteOutcome}
    (hchunk : sink.chunk ≠ some 0) (hbytes : bytes ≠ [])
    (h : sink.write bytes = (next, outcome)) :
    outcome = .interrupted ∨
      (sink.room bytes.length = 0 ∧ outcome = sink.whenFull.outcome) ∨
      ∃ count < sink.room bytes.length, outcome = .took (count + 1) := by
  unfold write at h
  split at h
  · exact .inl (Prod.mk.inj h).2.symm
  · right
    split at h
    · rename_i hfull
      refine .inl ⟨room_eq_zero_of_isFull hfull _, ?_⟩
      split at h
      · rename_i hwhen
        rw [hwhen, ← (Prod.mk.inj h).2]
        rfl
      · rename_i hwhen
        rw [hwhen, ← (Prod.mk.inj h).2]
        rfl
    · rename_i hopen
      obtain ⟨hpos, hroom⟩ := length_portion_of_not_isFull hchunk hopen hbytes
      refine .inr ⟨(sink.portion bytes).length - 1, by omega, ?_⟩
      rw [Nat.sub_add_cancel hpos]
      exact (Prod.mk.inj h).2.symm

/-- The outcome of writing bytes: what fits is taken, and there is a failure exactly when
something does not fit. -/
structure Wrote (sink next : Sink) (bytes : List UInt8) (failure : Option IoFailure) :
    Prop where
  took : Took sink next (bytes.take (sink.room bytes.length))
  failure_eq : failure =
    if sink.room bytes.length = bytes.length then none else some sink.whenFull.failure

theorem Wrote.room_eq {sink next : Sink} {bytes : List UInt8}
    (h : Wrote sink next bytes none) : sink.room bytes.length = bytes.length := by
  have hfailure := h.failure_eq
  split at hfailure
  · assumption
  · contradiction

theorem Wrote.took_all {sink next : Sink} {bytes : List UInt8}
    (h : Wrote sink next bytes none) : Took sink next bytes := by
  have htook := h.took
  rwa [h.room_eq, List.take_length] at htook

theorem Wrote.append {a b c : Sink} {first second : List UInt8} {failure : Option IoFailure}
    (hfirst : Wrote a b first none) (hsecond : Wrote b c second failure) :
    Wrote a c (first ++ second) failure := by
  have hroom := hfirst.room_eq
  have hsplit := a.room_of_le (Nat.le_add_right first.length second.length)
  have hshift := hfirst.took_all.room second.length
  constructor
  · have htake : (first ++ second).take (a.room (first ++ second).length) =
        first ++ second.take (b.room second.length) := by
      rw [List.length_append, hshift, List.take_append, List.take_of_length_le (by omega)]
    rw [htake]
    exact hfirst.took_all.trans hsecond.took
  · have hfits : b.room second.length = second.length ↔
        a.room (first ++ second).length = (first ++ second).length := by
      rw [List.length_append]
      omega
    rw [hsecond.failure_eq, hfirst.took_all.whenFull]
    simp only [hfits]

theorem Wrote.append_of_failure {a b : Sink} {first : List UInt8} {failure : IoFailure}
    (h : Wrote a b first (some failure)) (second : List UInt8) :
    Wrote a b (first ++ second) (some failure) := by
  have hfailure := h.failure_eq
  have hsplit := a.room_of_le (Nat.le_add_right first.length second.length)
  split at hfailure
  · contradiction
  · rename_i hshort
    constructor
    · have htake : (first ++ second).take (a.room (first ++ second).length) =
          first.take (a.room first.length) := by
        rw [List.length_append, List.take_append_of_le_length (by omega)]
        congr 1
        omega
      rw [htake]
      exact h.took
    · rw [hfailure, if_neg]
      rw [List.length_append]
      omega

theorem wrote_of_took {sink next : Sink} {bytes : List UInt8} (htook : Took sink next bytes)
    (hroom : bytes.length ≤ sink.room bytes.length) : Wrote sink next bytes none := by
  have hall : sink.room bytes.length = bytes.length :=
    Nat.le_antisymm (sink.room_le bytes.length) hroom
  exact ⟨by rwa [hall, List.take_length], by rw [if_pos hall]⟩

theorem wrote_of_room_eq_zero {sink next : Sink} {bytes : List UInt8}
    (htook : Took sink next []) (hbytes : bytes ≠ []) (hroom : sink.room bytes.length = 0) :
    Wrote sink next bytes (some sink.whenFull.failure) := by
  have hpos : 0 < bytes.length := List.length_pos_iff.2 hbytes
  exact ⟨by rwa [hroom, List.take_zero], by rw [if_neg (by omega)]⟩

/-- Repeated calls take what fits. -/
theorem wrote_of_writeAll {sink next : Sink} {bytes : List UInt8} {failure : Option IoFailure}
    (hchunk : sink.chunk ≠ some 0) (h : sink.writeAll bytes = (next, failure)) :
    Wrote sink next bytes failure := by
  -- The induction follows the calls: one that takes bytes is a write before the rest.
  fun_induction writeAll sink bytes with
  | case1 sink =>
      obtain ⟨rfl, rfl⟩ := Prod.mk.inj h
      exact wrote_of_took (Took.refl sink) (Nat.zero_le _)
  | case2 sink byte rest between hcall _ ih =>
      have htook : Took sink between [] := took_of_write hcall
      have hrest := ih (htook.chunk ▸ hchunk) h
      exact (wrote_of_took htook (Nat.zero_le _)).append hrest
  | case3 sink byte rest between stop hcall =>
      obtain ⟨rfl, rfl⟩ := Prod.mk.inj h
      have htook : Took sink between [] := took_of_write hcall
      rcases write_outcome hchunk (List.cons_ne_nil byte rest) hcall with
        hcase | ⟨hroom, hcase⟩ | ⟨_, _, hcase⟩
      · contradiction
      · rw [← WhenFull.failure_of_failed hcase.symm]
        exact wrote_of_room_eq_zero htook (List.cons_ne_nil byte rest) hroom
      · contradiction
  | case4 sink byte rest between hcall =>
      obtain ⟨rfl, rfl⟩ := Prod.mk.inj h
      have htook : Took sink between [] := took_of_write hcall
      rcases write_outcome hchunk (List.cons_ne_nil byte rest) hcall with
        hcase | ⟨hroom, hcase⟩ | ⟨_, _, hcase⟩
      · contradiction
      · rw [← (WhenFull.failure_of_took hcase.symm).2]
        exact wrote_of_room_eq_zero htook (List.cons_ne_nil byte rest) hroom
      · exact absurd (WriteOutcome.took.inj hcase) (Nat.zero_ne_add_one _)
  | case5 sink byte rest between count hcall _ ih =>
      have htook : Took sink between ((byte :: rest).take (count + 1)) := took_of_write hcall
      have hrest := ih (htook.chunk ▸ hchunk) h
      rcases write_outcome hchunk (List.cons_ne_nil byte rest) hcall with
        hcase | ⟨hroom, hcase⟩ | ⟨more, hmore, hcase⟩
      · contradiction
      · exact absurd (WhenFull.failure_of_took hcase.symm).1 (Nat.succ_ne_zero count)
      · obtain rfl : count = more := by simpa using hcase
        have hfits : count + 1 ≤ (byte :: rest).length :=
          Nat.le_trans hmore (sink.room_le _)
        have hsplit : (byte :: rest).take (count + 1) ++ rest.drop count = byte :: rest :=
          List.take_append_drop (count + 1) (byte :: rest)
        rw [← hsplit]
        refine (wrote_of_took htook ?_).append hrest
        rw [List.length_take_of_le hfits, sink.room_of_le hfits]
        omega

end Sink

/-! ## Lines -/

theorem Text.bytes_unlines_cons (line : String) (lines : List String) :
    Text.bytes (Text.unlines (line :: lines)) =
      Text.bytes line ++ (Text.bytes "\n" ++ Text.bytes (Text.unlines lines)) := by
  simp [Text.bytes, Text.unlines]

namespace Sink

theorem accepted_of_writeLines {sink next : Sink} {lines : List String}
    (h : sink.writeLines lines = (next, none)) :
    next.accepted.toList = sink.accepted.toList ++ Text.bytes (Text.unlines lines) ∧
      next.flushes = sink.flushes + 1 := by
  induction lines generalizing sink with
  | nil =>
      obtain ⟨rfl, -⟩ := Prod.mk.inj h
      simp [Text.bytes, Text.unlines]
  | cons line lines ih =>
      unfold writeLines at h
      split at h
      · simp at h
      · rename_i afterLine hline
        split at h
        · simp at h
        · rename_i afterNewline hnewline
          have hline := took_of_writeAll_none hline
          have htook := hline.trans (took_of_writeAll_none hnewline)
          obtain ⟨haccepted, hflushes⟩ := ih h
          refine ⟨?_, by rw [hflushes, htook.flushes]⟩
          rw [haccepted, htook.accepted, Text.bytes_unlines_cons]
          simp only [List.append_assoc]

/-- Lines that fit are followed by a flush; the others end in the failure of a full
sink. -/
theorem wrote_of_writeLines {sink next : Sink} {lines : List String}
    {failure : Option IoFailure} (hchunk : sink.chunk ≠ some 0)
    (h : sink.writeLines lines = (next, failure)) :
    (∃ last, Wrote sink last (Text.bytes (Text.unlines lines)) none ∧
        last.flush = (next, failure)) ∨
      ∃ stop, Wrote sink next (Text.bytes (Text.unlines lines)) (some stop) ∧
        failure = some stop := by
  induction lines generalizing sink with
  | nil => exact .inl ⟨sink, wrote_of_took (Took.refl sink) (Nat.zero_le _), h⟩
  | cons line lines ih =>
      rw [Text.bytes_unlines_cons]
      unfold writeLines at h
      split at h
      · rename_i afterLine stop hline
        obtain ⟨rfl, rfl⟩ := Prod.mk.inj h
        have hline := wrote_of_writeAll hchunk hline
        exact .inr ⟨stop, hline.append_of_failure _, rfl⟩
      · rename_i afterLine hline
        have hline := wrote_of_writeAll hchunk hline
        have hchunkLine := hline.took_all.chunk ▸ hchunk
        split at h
        · rename_i afterNewline stop hnewline
          obtain ⟨rfl, rfl⟩ := Prod.mk.inj h
          have hnewline := wrote_of_writeAll hchunkLine hnewline
          exact .inr ⟨stop, hline.append (hnewline.append_of_failure _), rfl⟩
        · rename_i afterNewline hnewline
          have hnewline := wrote_of_writeAll hchunkLine hnewline
          have hchunkNewline := hnewline.took_all.chunk ▸ hchunkLine
          rcases ih hchunkNewline h with ⟨last, hlast, hflush⟩ | ⟨stop, hstop, hfailure⟩
          · exact .inl ⟨last, hline.append (hnewline.append hlast), hflush⟩
          · exact .inr ⟨stop, hline.append (hnewline.append hstop), hfailure⟩

/-- A sink that never gets full, takes something in every call and can be flushed. -/
structure IsUnlimited (sink : Sink) : Prop where
  limit : sink.limit = none
  chunk : sink.chunk ≠ some 0
  flushFailure : sink.flushFailure = none

theorem isUnlimited_default : IsUnlimited {} :=
  ⟨rfl, by decide, rfl⟩

def text? (sink : Sink) : Option String :=
  String.fromUTF8? ⟨sink.accepted⟩

theorem text?_of_accepted {sink next : Sink} {text : String} (hempty : sink.accepted = #[])
    (h : next.accepted.toList = sink.accepted.toList ++ Text.bytes text) :
    next.text? = some text := by
  rw [hempty, List.nil_append] at h
  have hbytes : ByteArray.mk next.accepted = text.toByteArray := by
    rw [← String.utf8Encode_toList, List.utf8Encode]
    apply ByteArray.ext
    rw [List.data_toByteArray, ← Text.bytes, ← h, Array.toArray_toList]
  rw [text?, hbytes, String.fromUTF8?, dif_pos text.isValidUTF8]
  rfl

end Sink

namespace Image

theorem write_of_error {image : Image} {settings : Settings} {error : Error}
    (h : image.render settings = .error error) (sink : Sink) :
    image.write settings sink = ⟨sink, some error, []⟩ := by
  simp [write, renderReporting, h]

theorem accepted_of_write {image : Image} {settings : Settings} {sink : Sink}
    (h : (image.write settings sink).error? = none) :
    ∃ lines, image.render settings = .ok lines ∧
      (image.write settings sink).sink.accepted.toList =
        sink.accepted.toList ++ Text.bytes (Text.unlines lines) ∧
      (image.write settings sink).sink.flushes = sink.flushes + 1 := by
  simp only [write, result_renderReporting] at h ⊢
  split at h
  · simp at h
  · rename_i lines hrender
    split at h
    · simp at h
    · rename_i next hlines
      refine ⟨lines, hrender, ?_⟩
      simpa [hrender, hlines] using Sink.accepted_of_writeLines hlines

/-- A write of a rendered image leaves in the sink what fits of its text, flushes if all
of it fits, and reports the failure of the flush or of the full sink. -/
theorem write_of_render {image : Image} {settings : Settings} {sink : Sink}
    {lines : List String} (hchunk : sink.chunk ≠ some 0)
    (hrender : image.render settings = .ok lines) :
    let text := Text.bytes (Text.unlines lines)
    let report := image.write settings sink
    report.sink.accepted.toList =
        sink.accepted.toList ++ text.take (sink.room text.length) ∧
      (report.sink.flushes, report.error?) =
        if sink.room text.length = text.length then
          (sink.flushes + 1, sink.flushFailure.map .io)
        else (sink.flushes, some (.io sink.whenFull.failure)) := by
  intro text report
  cases hlines : sink.writeLines lines with
  | mk next failure =>
      have hsink : report.sink = next := by
        simp only [report, write, result_renderReporting, hrender, hlines]
        cases failure <;> rfl
      have herror : report.error? = failure.map .io := by
        simp only [report, write, result_renderReporting, hrender, hlines]
        cases failure <;> rfl
      rw [hsink, herror]
      rcases Sink.wrote_of_writeLines hchunk hlines with
        ⟨last, hlast, hflush⟩ | ⟨stop, hstop, rfl⟩
      · obtain ⟨rfl, rfl⟩ := Prod.mk.inj hflush
        have htook := hlast.took_all
        rw [if_pos hlast.room_eq, hlast.room_eq, List.take_length, htook.flushFailure,
          htook.flushes]
        exact ⟨htook.accepted, rfl⟩
      · have hshort := hstop.failure_eq
        split at hshort
        · contradiction
        · rename_i hroom
          rw [if_neg hroom, hshort, hstop.took.flushes]
          exact ⟨hstop.took.accepted, rfl⟩

/-- A sink without a limit takes every image that can be rendered. -/
theorem write_of_isUnlimited {image : Image} {settings : Settings} {sink : Sink}
    {lines : List String} (hsink : sink.IsUnlimited) (h : image.render settings = .ok lines) :
    (image.write settings sink).error? = none ∧
      (image.write settings sink).sink.accepted.toList =
        sink.accepted.toList ++ Text.bytes (Text.unlines lines) ∧
      (image.write settings sink).sink.flushes = sink.flushes + 1 := by
  obtain ⟨haccepted, hend⟩ := write_of_render hsink.chunk h
  rw [Sink.room_of_none hsink.limit, List.take_length] at haccepted
  rw [if_pos (Sink.room_of_none hsink.limit _), hsink.flushFailure, Prod.mk.injEq] at hend
  exact ⟨hend.2, haccepted, hend.1⟩

theorem events_of_write {image : Image} {settings : Settings} {sink : Sink}
    {lines : List String} (hrender : image.render settings = .ok lines)
    (hnone : (image.write settings sink).error? = none) :
    (image.write settings sink).events =
      [.rendering image.width image.height (columnCount image.width settings.scale),
        .wroteLines lines.length] := by
  simp only [write, renderReporting, hrender] at hnone ⊢
  split at hnone
  · contradiction
  · rfl

end Image

/-- A sink to which nothing was written yet.  Every call that is not interrupted takes
something until the sink is full, and a full sink does not pass for an interrupted one,
since a write would then be tried again for ever. -/
structure Sink.IsReady (sink : Sink) : Prop where
  accepted : sink.accepted = #[]
  flushes : sink.flushes = 0
  chunk : sink.chunk ≠ some 0
  whenFull : sink.whenFull ≠ .fail .interrupted

theorem Sink.IsReady.room_eq_of_limit {sink other : Sink} (hsink : sink.IsReady)
    (hother : other.IsReady) (h : other.limit = sink.limit) (count : Nat) :
    other.room count = sink.room count := by
  rw [room, room, hsink.accepted, hother.accepted, h]

namespace Image

/-- What a write leaves in a sink depends on the limit of the sink, on what it does when
it is full and on its flush, and not on how it divides or interrupts the calls. -/
theorem write_of_isReady {image : Image} {settings : Settings} {lines : List String}
    {sink : Sink} (hrender : image.render settings = .ok lines) (hsink : sink.IsReady) :
    let text := Text.bytes (Text.unlines lines)
    let report := image.write settings sink
    ((∀ limit, sink.limit = some limit → text.length ≤ limit) →
      report.sink.accepted.toList = text ∧ report.sink.flushes = 1 ∧
        report.error? = sink.flushFailure.map .io) ∧
    (∀ limit, sink.limit = some limit → limit < text.length →
      report.sink.accepted.toList = text.take limit ∧ report.sink.flushes = 0 ∧
        report.error? = some (.io sink.whenFull.failure)) ∧
    report.sink.accepted.toList <+: text ∧
    ∀ other : Sink, other.IsReady → other.limit = sink.limit →
      other.whenFull = sink.whenFull → other.flushFailure = sink.flushFailure →
      (image.write settings other).sink.accepted = report.sink.accepted ∧
        (image.write settings other).sink.flushes = report.sink.flushes ∧
        (image.write settings other).error? = report.error? := by
  intro text report
  obtain ⟨haccepted, hend⟩ := write_of_render hsink.chunk hrender
  rw [hsink.accepted, List.nil_append] at haccepted
  rw [hsink.flushes] at hend
  refine ⟨?_, ?_, ?_, ?_⟩
  · intro hlimit
    have hroom : sink.room text.length = text.length := by
      cases hcase : sink.limit with
      | none => exact Sink.room_of_none hcase _
      | some limit =>
          rw [Sink.room_of_some hcase, hsink.accepted]
          exact Nat.min_eq_left (hlimit limit hcase)
    rw [if_pos hroom, Prod.mk.injEq] at hend
    rw [hroom, List.take_length] at haccepted
    exact ⟨haccepted, hend⟩
  · intro limit hcase hlimit
    have hroom : sink.room text.length = limit := by
      rw [Sink.room_of_some hcase, hsink.accepted]
      exact Nat.min_eq_right (Nat.le_of_lt hlimit)
    have hshort : sink.room text.length ≠ text.length := by omega
    rw [if_neg hshort, Prod.mk.injEq] at hend
    rw [hroom] at haccepted
    exact ⟨haccepted, hend⟩
  · rw [haccepted]
    exact List.take_prefix _ _
  · intro other hother hlimit hfull hflush
    obtain ⟨hotherAccepted, hotherEnd⟩ := write_of_render hother.chunk hrender
    rw [hother.accepted, List.nil_append, hsink.room_eq_of_limit hother hlimit,
      ← haccepted] at hotherAccepted
    rw [hother.flushes, hsink.room_eq_of_limit hother hlimit, hfull, hflush, ← hend,
      Prod.mk.injEq] at hotherEnd
    exact ⟨Array.toList_inj.1 hotherAccepted, hotherEnd⟩

def redGreen : Image :=
  ⟨2, 1, #[⟨255, 0, 0, 255⟩, ⟨0, 255, 0, 255⟩], rfl, by decide, by decide⟩

theorem write_of_isReady_redGreen :
    let sink : Sink :=
      { chunk := some 3, limit := some 20, whenFull := .takeNothing, interrupts := 2 }
    redGreen.render {} = .ok ["\\x1cffff00  \\x1c0000ff \\x19"] ∧ sink.IsReady ∧
      (redGreen.write {} sink).sink.accepted.toList =
        Text.bytes "\\x1cffff00  \\x1c0000" ∧
      (redGreen.write {} sink).sink.flushes = 0 ∧
      (redGreen.write {} sink).error? = some (.io .writeZero) := by
  intro sink
  have hrender : redGreen.render {} = .ok ["\\x1cffff00  \\x1c0000ff \\x19"] := by
    decide +kernel
  have hready : sink.IsReady := ⟨rfl, rfl, by decide, by decide⟩
  obtain ⟨haccepted, hend⟩ :=
    (write_of_isReady hrender hready).2.1 20 rfl (by decide +kernel)
  exact ⟨hrender, hready, haccepted.trans (by decide +kernel), hend⟩

end Image

end RasterText
