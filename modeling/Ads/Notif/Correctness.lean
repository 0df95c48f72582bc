import Ads.Notif.Core

/-!
# Agreement of the two walks over a notification

The validating walk accepts exactly the encodings of notification bodies, and on
an accepted message the iterator yields the samples of that body and stops.
-/

namespace Ads.Notif

open Ads.Bytes Ads.Bytes.Reader Ads.Control Ads.Client

/-! ## The validating walk -/

theorem scanSample_accepts : Accepts scanSample WireSample.bytes := by
  intro input rest
  constructor
  · rintro ⟨_, ran⟩
    simp only [scanSample, bind_run_eq_ok_iff] at ran
    obtain ⟨handle, _, readHandle, length, _, readLength, data, _, taken, done⟩ := ran
    obtain ⟨-, rfl⟩ := (exact_u32 _ _ _ _).mp readHandle
    obtain ⟨-, rfl⟩ := (exact_u32 _ _ _ _).mp readLength
    obtain ⟨size, rfl⟩ := take_eq_ok_iff.mp taken
    cases done
    refine ⟨⟨handle, data, by rw [size]; exact length.toNat_lt⟩, ?_⟩
    simp [WireSample.bytes, WireSample.length, size, List.append_assoc]
  · rintro ⟨sample, rfl⟩
    have data : Reads (take (Error.eof parsing) sample.length.toNat) sample.data sample.data := by
      rw [sample.toNat_length]
      exact reads_take _ _
    have reads : Reads scanSample sample.bytes () :=
      (reads_u32 _ _).bind <| (reads_u32 _ _).bind data.bind_pure
    exact ⟨(), reads rest⟩

theorem scanStamp_accepts : Accepts scanStamp WireStamp.bytes := by
  intro input rest
  constructor
  · rintro ⟨_, ran⟩
    simp only [scanStamp, bind_run_eq_ok_iff] at ran
    obtain ⟨timestamp, _, readTimestamp, nsamples, _, readCount, units, _, loop, done⟩ := ran
    obtain ⟨-, rfl⟩ := (exact_u64 _ _ _ _).mp readTimestamp
    obtain ⟨-, rfl⟩ := (exact_u32 _ _ _ _).mp readCount
    obtain ⟨samples, size, rfl⟩ := (scanSample_accepts.repeatN _ _ _).mp ⟨units, loop⟩
    cases done
    refine ⟨⟨timestamp, samples, by rw [size]; exact nsamples.toNat_lt⟩, ?_⟩
    simp [WireStamp.bytes, WireStamp.count, size, List.append_assoc]
  · rintro ⟨stamp, rfl⟩
    obtain ⟨units, loop⟩ := (scanSample_accepts.repeatN stamp.samples.length
      (stamp.samples.flatMap WireSample.bytes ++ rest) rest).mpr ⟨stamp.samples, rfl, rfl⟩
    refine ⟨(), ?_⟩
    rw [WireStamp.bytes, List.append_assoc, List.append_assoc, scanStamp,
      bind_run_ok (reads_u64 _ _ _), bind_run_ok (reads_u32 _ _ _), stamp.toNat_count,
      bind_run_ok loop, pure_run]

/-- The scan reaches the end exactly on the encodings of bodies, and returns the
stamp count. -/
theorem scan_eq_ok_iff {input : List UInt8} {nstamps : UInt32} :
    scan input = .ok (nstamps, []) ↔
      ∃ body : WireBody, input = body.bytes ∧ body.count = nstamps := by
  constructor
  · intro ran
    simp only [scan, bind_run_eq_ok_iff] at ran
    obtain ⟨count, _, readCount, units, _, loop, done⟩ := ran
    obtain ⟨-, rfl⟩ := (exact_u32 _ _ _ _).mp readCount
    obtain ⟨stamps, size, rfl⟩ := (scanStamp_accepts.repeatN _ _ _).mp ⟨units, loop⟩
    cases done
    refine ⟨⟨stamps, by rw [size]; exact nstamps.toNat_lt⟩, ?_, ?_⟩ <;>
      simp [WireBody.bytes, WireBody.count, size]
  · rintro ⟨body, rfl, rfl⟩
    obtain ⟨units, loop⟩ := (scanStamp_accepts.repeatN body.stamps.length
      (body.stamps.flatMap WireStamp.bytes) []).mpr ⟨body.stamps, rfl, by simp⟩
    rw [WireBody.bytes, scan, bind_run_ok (reads_u32 _ _ _), body.toNat_count,
      bind_run_ok loop, pure_run]

theorem scan_neverPanics : NeverPanics scan := by
  have sample : NeverPanics scanSample :=
    (neverPanics_u32 _).bind fun _ => (neverPanics_u32 _).bind fun _ =>
      (neverPanics_take _ _).bind fun _ => NeverPanics.pure _
  have stamp : NeverPanics scanStamp :=
    (neverPanics_u64 _).bind fun _ => (neverPanics_u32 _).bind fun _ =>
      (sample.repeatN _).bind fun _ => NeverPanics.pure _
  exact (neverPanics_u32 _).bind fun _ => (stamp.repeatN _).bind fun _ => NeverPanics.pure _

namespace Notification

/-- The constructor succeeds exactly when the scan of the body reaches the end,
and keeps the data it was given. -/
theorem new_eq_ok_iff {data : List UInt8} {notification : Notification} :
    Notification.new data = .ok notification ↔
      adsHeaderSize + 8 ≤ data.length ∧ notification.data = data := by
  obtain ⟨held, nstamps, scanned⟩ := notification
  constructor
  · intro built
    unfold Notification.new at built
    split at built
    · contradiction
    · rename_i long
      split at built <;> cases built
      exact ⟨Nat.le_of_not_lt long, rfl⟩
  · rintro ⟨long, rfl⟩
    unfold Notification.new
    rw [if_neg (Nat.not_lt.mpr long)]
    split
    · rename_i count again
      have counts : count = nstamps := by
        rw [scanned] at again
        cases again
        rfl
      subst counts
      rfl
    all_goals
      rename_i again
      rw [scanned] at again
      cases again

theorem new_ne_panic (data : List UInt8) : Notification.new data ≠ .panic := by
  unfold Notification.new
  split
  · exact Outcome.err_ne_panic _
  · split
    · exact Outcome.ok_ne_panic _
    · exact Outcome.err_ne_panic _
    · exact Outcome.err_ne_panic _
    · rename_i panicked
      exact absurd panicked (scan_neverPanics _)

end Notification

/-! ## The iterating walk -/

theorem readSample_reads (sample : WireSample) (timestamp : UInt64) :
    Reads (readSample timestamp) sample.bytes (sample.stamped timestamp) := by
  have data : Reads (splitAt sample.length.toNat : Reader Error _) sample.data sample.data := by
    rw [sample.toNat_length]
    exact reads_splitAt _
  exact (reads_u32 _ _).expect.bind <| (reads_u32 _ _).expect.bind data.bind_pure

theorem readStamp_reads (timestamp : UInt64) (count : UInt32) :
    Reads readStamp (u64Bytes timestamp ++ u32Bytes count) (timestamp, count) :=
  (reads_u64 _ _).expect.bind (reads_u32 _ _).expect.bind_pure

namespace SampleIter

/-- Inside a stamp the next sample is handed out with the stamp's timestamp. -/
theorem next_sample (sample : WireSample) (rest : List UInt8) (timestamp : UInt64)
    (stampsLeft samplesLeft : Nat) :
    SampleIter.next ⟨sample.bytes ++ rest, timestamp, stampsLeft, samplesLeft + 1⟩ =
      .ok (some (sample.stamped timestamp), ⟨rest, timestamp, stampsLeft, samplesLeft⟩) := by
  simp [SampleIter.next, nextFrom, readSample_reads sample timestamp rest]

/-- Between stamps the iterator reads the next head and goes on inside it. -/
theorem next_stamp (stamp : WireStamp) (rest : List UInt8) (timestamp : UInt64)
    (stampsLeft : Nat) :
    SampleIter.next ⟨stamp.bytes ++ rest, timestamp, stampsLeft + 1, 0⟩ =
      SampleIter.next ⟨stamp.samples.flatMap WireSample.bytes ++ rest, stamp.timestamp,
        stampsLeft, stamp.samples.length⟩ := by
  have head := readStamp_reads stamp.timestamp stamp.count
    (stamp.samples.flatMap WireSample.bytes ++ rest)
  rw [List.append_assoc, ← stamp.toNat_count] at *
  simp only [SampleIter.next, nextFrom, WireStamp.bytes, List.append_assoc, head,
    Outcome.ok_bind]

end SampleIter

/-- Exhausting an iterator depends only on its next step. -/
theorem Yields.congr {first second : SampleIter} {samples : List Sample}
    (same : first.next = second.next) (yields : Yields second samples) :
    Yields first samples := by
  cases yields with
  | stop done => exact .stop (same.trans done)
  | more step rest => exact .more (same.trans step) rest

/-- An iterator yields at most one list of samples. -/
theorem Yields.unique {iter : SampleIter} {first second : List Sample}
    (firstYields : Yields iter first) (secondYields : Yields iter second) :
    first = second := by
  induction firstYields generalizing second with
  | stop done =>
      cases secondYields with
      | stop _ => rfl
      | more step _ => simp [done] at step
  | more step _ ih =>
      cases secondYields with
      | stop done => simp [done] at step
      | more otherStep rest =>
          rw [step] at otherStep
          cases otherStep
          rw [ih rest]

theorem yields_samples (samples : List WireSample) {rest : List UInt8} {timestamp : UInt64}
    {stampsLeft : Nat} {later : List Sample}
    (yields : Yields ⟨rest, timestamp, stampsLeft, 0⟩ later) :
    Yields ⟨samples.flatMap WireSample.bytes ++ rest, timestamp, stampsLeft, samples.length⟩
      ((samples.map fun sample => sample.stamped timestamp) ++ later) := by
  induction samples with
  | nil => exact yields
  | cons sample samples ih =>
      rw [List.flatMap_cons, List.append_assoc]
      exact .more (SampleIter.next_sample sample _ timestamp stampsLeft samples.length) ih

/-- A stamp without samples yields nothing of its own, wherever it stands. -/
theorem yields_stamps (stamps : List WireStamp) (timestamp : UInt64) :
    Yields ⟨stamps.flatMap WireStamp.bytes, timestamp, stamps.length, 0⟩
      (stamps.flatMap WireStamp.yielded) := by
  induction stamps generalizing timestamp with
  | nil => exact .stop rfl
  | cons stamp stamps ih =>
      rw [List.flatMap_cons, List.flatMap_cons]
      exact Yields.congr (SampleIter.next_stamp stamp _ timestamp stamps.length)
        (yields_samples stamp.samples (ih stamp.timestamp))

/-- Iterating an accepted message yields the samples of its body, in wire order
and each with the timestamp of its stamp. -/
theorem Notification.samples_yield (notification : Notification) (body : WireBody)
    (encoded : notification.data.drop 42 = body.bytes) :
    ∃ iter, notification.samples = .ok iter ∧ Yields iter body.yielded := by
  have counted : body.count = notification.nstamps := by
    have held : scan (notification.data.drop 42) = .ok (notification.nstamps, []) :=
      notification.scanned
    have again := scan_eq_ok_iff.mpr ⟨body, encoded, rfl⟩
    rw [held] at again
    exact (congrArg Prod.fst (Outcome.ok.inj again)).symm
  have long : 46 ≤ notification.data.length := by
    have size := congrArg List.length encoded
    simp only [List.length_drop, WireBody.bytes, List.length_append, length_u32Bytes] at size
    omega
  have stamps : notification.data.drop 46 = body.stamps.flatMap WireStamp.bytes := by
    rw [show 46 = 42 + 4 from rfl, ← List.drop_drop, encoded, WireBody.bytes]
    exact List.drop_left' (length_u32Bytes _)
  refine ⟨_, if_pos long, ?_⟩
  rw [stamps, ← counted, body.toNat_count]
  exact yields_stamps body.stamps 0

/-- The constructor and the iterator agree: a message is accepted exactly when
its body is a counted list of stamps with nothing left over, and iterating an
accepted message ends, without panicking, after exactly the samples of that
body. -/
theorem new_ok_iff_and_samples_yield (data : List UInt8) :
    Notification.new data ≠ .panic ∧
      ((∃ notification, Notification.new data = .ok notification) ↔
        ∃ body : WireBody, data.drop 42 = body.bytes) ∧
      ∀ notification body, Notification.new data = .ok notification →
        data.drop 42 = WireBody.bytes body →
          ∃ iter, notification.samples = .ok iter ∧ Yields iter body.yielded := by
  refine ⟨Notification.new_ne_panic data, ⟨?_, ?_⟩, ?_⟩
  · rintro ⟨notification, built⟩
    obtain ⟨-, rfl⟩ := Notification.new_eq_ok_iff.mp built
    obtain ⟨body, encoded, -⟩ := scan_eq_ok_iff.mp notification.scanned
    exact ⟨body, encoded⟩
  · rintro ⟨body, encoded⟩
    have scanned : scan (data.drop (adsHeaderSize + 4)) = .ok (body.count, []) :=
      scan_eq_ok_iff.mpr ⟨body, encoded, rfl⟩
    refine ⟨⟨data, body.count, scanned⟩, Notification.new_eq_ok_iff.mpr ⟨?_, rfl⟩⟩
    have size := congrArg List.length encoded
    simp only [List.length_drop, WireBody.bytes, List.length_append, length_u32Bytes] at size
    simp only [adsHeaderSize, amsTcpHeaderSize, amsHeaderSize]
    omega
  · intro notification body built encoded
    obtain ⟨-, rfl⟩ := Notification.new_eq_ok_iff.mp built
    exact notification.samples_yield body encoded

end Ads.Notif
