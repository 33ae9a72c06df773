import MeshTrace.Proofs.Command.Collecting
import MeshTrace.Proofs.Command.Drains
import MeshTrace.Proofs.Files.Writing

/-!
# Drained correlations are reported

A drain takes request ids out of the map long before the report is written, and each later
step can fail.  What was drained by the time of a failure is lost
(`drained_correlation_lost`).  If no drain fails, the run makes a report that has every
correlation that one of the drains removed, unless a later drain gave another request id
under the same number; and the run ends with that report exactly if the output file can be
made and takes all of it (`drained_correlations_reported`).

A run that makes no report leaves the files as they were when it began to collect.  A report
that the output file does not take leaves a part of itself there, in place of what was in the
file before.
-/

namespace MeshTrace

open Procedure

namespace Command

open Installation

variable {started : System} {collector : Collector} {n : Nat}

/-! A line in the log -/

/-- The system after a line was logged. -/
def noting (system : System) (line : String) : System :=
  { system with events := system.events.push (.logged ⟨.info, .command, line⟩) }

theorem execute_info (line : String) (system : System) :
    (info line).execute system = (.ok (), noting system line) := rfl

/-! The files -/

/-- Drains leave the files alone. -/
theorem files_beforeDrain (started : System) (n : Nat) :
    (beforeDrain started n).files = started.files :=
  respects_collect (R := System.SameFiles) {} n started

/-- Reading the path cache never fails. -/
theorem readPathCache_ok (protocol : Protocol) (system : System) :
    ∃ cache after, (readPathCache protocol).execute system = (.ok cache, after) ∧
      after.files = system.files := by
  have hfiles := respects_readPathCache (R := System.SameFiles) protocol system
  cases hread : (readPathCache protocol).execute system with
  | mk outcome after =>
      rw [hread] at hfiles
      cases outcome with
      | ok cache => exact ⟨cache, after, rfl, hfiles⟩
      | error failure =>
          exfalso
          cases protocol with
          | thrift => cases hread
          | grpc =>
              unfold readPathCache at hread
              rw [execute_tryCatch] at hread
              split at hread <;> cases hread

/-! The report -/

/-- Lines for the log always get there, and the files stay as they are. -/
theorem infos_ok (lines : List String) (system : System) :
    ∃ after, (infos lines).execute system = (.ok (), after) ∧ after.files = system.files := by
  induction lines generalizing system with
  | nil => exact ⟨system, rfl, rfl⟩
  | cons line rest ih =>
      obtain ⟨after, hrest, hfiles⟩ := ih (noting system line)
      exact ⟨after, hrest, hfiles⟩

/-- How the report of a run comes to its output path. -/
abbrev Exported {α : Type} (files : FileTree Content) (options : Options) (report : Report)
    (done : α) : Except Failure α → FileTree Content → Prop :=
  files.Written options.output (report.render .pretty) (.createOutput options.output)
    (.writeOutput options.output) done

/-- **What comes of the last drain.**  The report has what the collector has after that drain.
Then it is up to the files whether the report is written. -/
theorem execute_finish (options : Options) (layout : PinLayout) (timestamp : String)
    (collector : Collector) (seconds : Nat) {system : System} {batch : List Correlation}
    (h : (drain.execute system).1 = .ok batch) :
    ∃ (report : Report) (outcome : Except Failure Unit) (after : System),
      report.correlations = (collector.add batch).stats ∧
        (finish options layout timestamp collector seconds).execute system = (outcome, after) ∧
        Exported system.files options report () outcome after.files := by
  have hdrain : drain.execute system = (.ok batch, (drain.execute system).2) := Prod.ext h rfl
  have hdrained : (drain.execute system).2.files = system.files :=
    respects_drain (R := System.SameFiles) system
  obtain ⟨cache, cached, hcache, hfiles⟩ :=
    readPathCache_ok options.protocol (drain.execute system).2
  rw [hdrained] at hfiles
  let report : Report := {
    timestamp
    durationSeconds := UInt64.ofNat seconds
    pod := layout.pod
    protocol := options.protocol
    serviceId := options.serviceId
    correlations := (collector.add batch).stats
    pathCache := cache }
  let logged := noting cached "Generating report..."
  have hfinish : (finish options layout timestamp collector seconds).execute system =
      (do write options.output (report.render .pretty) (.createOutput options.output)
            (.writeOutput options.output)
          infos (("Report written to " ++ Text.quoted options.output) :: summary report) :
        Procedure Unit).execute logged := by
    unfold finish
    rw [execute_bind, hdrain]
    dsimp only
    rw [execute_bind, hcache]
    dsimp only
    rw [execute_bind, execute_info]
    rfl
  have hlogged : logged.files = system.files := hfiles
  obtain ⟨outcome, files, hwrite, hwritten⟩ := execute_write options.output
    (report.render .pretty) (.createOutput options.output) (.writeOutput options.output) logged
  rw [hlogged] at hwritten
  rw [execute_bind, hwrite] at hfinish
  cases outcome with
  | error failure => exact ⟨report, _, _, rfl, hfinish, hwritten⟩
  | ok done =>
      obtain ⟨after, hinfos, hafter⟩ := infos_ok
        (("Report written to " ++ Text.quoted options.output) :: summary report)
        { logged with files }
      refine ⟨report, .ok (), after, rfl, hfinish.trans hinfos, ?_⟩
      rw [hafter]
      exact hwritten

/-- A last drain that fails ends the run. -/
theorem finish_of_drain_error {options : Options} {layout : PinLayout} {timestamp : String}
    {collector : Collector} {seconds : Nat} {system after : System} {failure : Failure}
    (h : drain.execute system = (.error failure, after)) :
    (finish options layout timestamp collector seconds).execute system =
      (.error failure, after) := by
  unfold finish
  rw [execute_bind, h]

/-! The end of a run -/

/-- The report has what the drains up to number `last` removed, unless a later one gave
another request id under the same number. -/
def Covers (started : System) (last : Nat) (report : Report) : Prop :=
  ∀ n ≤ last, ∀ c, Removes (beforeDrain started n) c →
    c ∈ report.correlations.records ∨
      ∃ m, n < m ∧ m ≤ last ∧ ∃ requestId ≠ c.requestId,
        Delivers (beforeDrain started m) ⟨c.sequence, requestId⟩

/-- A collector that has what it owes to the drains gives a report that covers them. -/
theorem Collects.covers {last : Nat} (h : Collects started collector (last + 1))
    {report : Report} (hrecords : report.correlations = collector.stats) :
    Covers started last report := by
  intro i hi c hremoves
  rcases h i (Nat.lt_succ_of_le hi) c hremoves.1 with hheld | ⟨j, hij, hj, hdelivers⟩
  · left
    rw [hrecords]
    exact Collector.mem_correlations.mpr hheld
  · exact Or.inr ⟨j, hij, Nat.le_of_lt_succ hj, hdelivers⟩

section Ending

variable {options : Options} (layout : PinLayout) (timestamp : String)
  {interruption : Option Nat} {stop : Stop}

/-- A run that stops and whose end can be shown collects, gives the reason for stopping, and then
finishes. -/
theorem execute_collectAndReport (hclock : Clock.shows options.duration.toNat)
    (hstop : Stop.first options.duration interruption = some stop) (started : System) :
    (collectAndReport options layout timestamp interruption).execute started =
      (do let collector ← collect {} (stop.drains options.drainInterval.toNat)
          info stop.reason.text
          finish options layout timestamp collector stop.second
          return .reported : Procedure Ending).execute started := by
  unfold collectAndReport
  dsimp only
  rw [if_neg fun h => h hclock, hstop]

/-- A collection in which no drain fails comes to its last drain and to the report. -/
theorem execute_collectAndReport_ok (hclock : Clock.shows options.duration.toNat)
    (hstop : Stop.first options.duration interruption = some stop)
    (hcollect : (collect {} (stop.drains options.drainInterval.toNat)).execute started =
      (.ok collector, beforeDrain started (stop.drains options.drainInterval.toNat))) :
    (collectAndReport options layout timestamp interruption).execute started =
      (do finish options layout timestamp collector stop.second
          return .reported : Procedure Ending).execute
        (noting (beforeDrain started (stop.drains options.drainInterval.toNat))
          stop.reason.text) := by
  rw [execute_collectAndReport layout timestamp hclock hstop, execute_bind, hcollect]
  dsimp only
  rw [execute_bind, execute_info]

/-- A collection in which every drain succeeds makes a report that covers the drains. -/
theorem collectAndReport_of_drains (hclock : Clock.shows options.duration.toNat)
    (hstop : Stop.first options.duration interruption = some stop)
    (hdrains : ∀ n ≤ stop.drains options.drainInterval.toNat, Drains (beforeDrain started n)) :
    ∃ (report : Report) (outcome : Except Failure Ending) (after : System),
      (collectAndReport options layout timestamp interruption).execute started =
          (outcome, after) ∧
        Covers started (stop.drains options.drainInterval.toNat) report ∧
        Exported started.files options report .reported outcome after.files := by
  obtain ⟨collector, hcollect⟩ := collect_ok_of_drains fun i hi => hdrains i (Nat.le_of_lt hi)
  rw [execute_collectAndReport_ok layout timestamp hclock hstop hcollect, execute_bind]
  generalize stop.drains options.drainInterval.toNat = last at hdrains hcollect ⊢
  obtain ⟨batch, hbatch⟩ := hdrains last (Nat.le_refl last)
  have hcollects := (collects_of_collect_ok hcollect).2.add hbatch
  let stopping := noting (beforeDrain started last) stop.reason.text
  have hobject : stopping.object = (beforeDrain started last).object := rfl
  have hstopping : (drain.execute stopping).1 = .ok batch := (drain_ok_congr hobject).mpr hbatch
  have hfiles : stopping.files = started.files := files_beforeDrain started last
  obtain ⟨report, outcome, after, hreport, hfinish, hexported⟩ :=
    execute_finish options layout timestamp collector stop.second hstopping
  rw [hfiles] at hexported
  refine ⟨report, outcome.map fun _ => .reported, after, ?_, hcollects.covers hreport,
    hexported.map_const Ending.reported⟩
  rw [hfinish]
  cases outcome <;> rfl

/-- A collection in which a drain fails ends with that failure and leaves the files alone. -/
theorem collectAndReport_of_not_drains (hclock : Clock.shows options.duration.toNat)
    (hstop : Stop.first options.duration interruption = some stop)
    (hdrains : ¬ ∀ n ≤ stop.drains options.drainInterval.toNat, Drains (beforeDrain started n)) :
    ∃ failure after, (collectAndReport options layout timestamp interruption).execute started =
      (.error failure, after) ∧ after.files = started.files := by
  by_cases hearlier : ∀ n < stop.drains options.drainInterval.toNat, Drains (beforeDrain started n)
  case pos =>
    -- Every drain before the last one succeeded, so the last one fails.
    obtain ⟨collector, hcollect⟩ := collect_ok_of_drains hearlier
    rw [execute_collectAndReport_ok layout timestamp hclock hstop hcollect, execute_bind]
    generalize stop.drains options.drainInterval.toNat = last at hdrains hearlier ⊢
    let stopping := noting (beforeDrain started last) stop.reason.text
    have hobject : stopping.object = (beforeDrain started last).object := rfl
    have hfiles : stopping.files = started.files := files_beforeDrain started last
    cases hdrain : drain.execute stopping with
    | mk outcome after =>
        cases outcome with
        | error failure =>
            refine ⟨failure, after, ?_, ?_⟩
            · rw [finish_of_drain_error hdrain]
            · rw [← hfiles, ← respects_drain (R := System.SameFiles) stopping, hdrain]
        | ok batch =>
            have hlast : Drains (beforeDrain started last) :=
              ⟨batch, (drain_ok_congr hobject).mp (congrArg Prod.fst hdrain)⟩
            refine absurd (fun n hn => ?_) hdrains
            rcases Nat.lt_or_eq_of_le hn with hn | rfl
            · exact hearlier n hn
            · exact hlast
  case neg =>
    rw [execute_collectAndReport layout timestamp hclock hstop, execute_bind]
    have hfiles := respects_collect (R := System.SameFiles) {}
      (stop.drains options.drainInterval.toNat) started
    cases hcollect : (collect {} (stop.drains options.drainInterval.toNat)).execute started with
    | mk outcome between =>
        rw [hcollect] at hfiles
        cases outcome with
        | error failure => exact ⟨failure, between, rfl, hfiles⟩
        | ok collector => exact absurd (collects_of_collect_ok hcollect).1 hearlier

/-- A run whose end the clock cannot show ends before its first drain. -/
theorem collectAndReport_of_not_shows (hclock : ¬ Clock.shows options.duration.toNat)
    (started : System) :
    (collectAndReport options layout timestamp interruption).execute started =
      (.error .endBeyondClock, started) := by
  unfold collectAndReport
  dsimp only
  rw [if_pos hclock]
  rfl

end Ending

/-- **Drained correlations are reported.**  Let a run be prepared and let it stop at some
moment.  If the clock cannot show its end or one of its drains fails, the one after the end
included, then the run fails and leaves the files as they were when it began to collect.  Else
it makes a report, which has every correlation that one of the drains removed, unless a later
drain gave another request id under the same number.  The run ends with that report exactly if
there is a place for the output file and the file takes all of it, and then the report is read
at the output path.  Otherwise the run fails: without a place for the file nothing has
happened, and a file that does not take the report is left with the part that it took. -/
theorem drained_correlations_reported {options : Options} {layout : PinLayout}
    (timestamp : String) {interruption : Option Nat} {stop : Stop} {system started : System}
    (hlayout : PinLayout.ofCgroup options.pinRoot options.cgroupRoot options.cgroup = .ok layout)
    (hunload : options.unload = false)
    (hprepared : (prepare options layout).execute system = (.ok (), started))
    (hstop : Stop.first options.duration interruption = some stop) :
    let ended := (run options timestamp interruption).execute system
    let last := stop.drains options.drainInterval.toNat
    let collects :=
      Clock.shows options.duration.toNat ∧ ∀ n ≤ last, Drains (beforeDrain started n)
    (¬collects → (∃ failure, ended.1 = .error failure) ∧ ended.2.files = started.files) ∧
      (collects → ∃ report : Report,
        (∀ n ≤ last, ∀ c, Removes (beforeDrain started n) c →
          c ∈ report.correlations.records ∨
            ∃ m, n < m ∧ m ≤ last ∧ ∃ requestId ≠ c.requestId,
              Delivers (beforeDrain started m) ⟨c.sequence, requestId⟩) ∧
        (ended.1 = .ok .reported ↔ ∃ location,
          started.files.place options.output = .ok location ∧
            started.files.exceeded? location (report.render .pretty).utf8ByteSize = none) ∧
        (ended.1 = .ok .reported →
          ended.2.files.read options.output = .ok (.text (report.render .pretty))) ∧
        Exported started.files options report .reported ended.1 ended.2.files) := by
  have hended : (run options timestamp interruption).execute system =
      (collectAndReport options layout timestamp interruption).execute started := by
    rw [execute_run hlayout hunload, execute_bind, hprepared]
  dsimp only
  rw [hended]
  constructor
  · intro hfails
    by_cases hclock : Clock.shows options.duration.toNat
    · obtain ⟨failure, after, hfailed, hfiles⟩ := collectAndReport_of_not_drains layout timestamp
        hclock hstop fun hdrains => hfails ⟨hclock, hdrains⟩
      rw [hfailed]
      exact ⟨⟨failure, rfl⟩, hfiles⟩
    · rw [collectAndReport_of_not_shows layout timestamp hclock]
      exact ⟨⟨_, rfl⟩, rfl⟩
  · rintro ⟨hclock, hdrains⟩
    obtain ⟨report, outcome, after, houtcome, hcovers, hexported⟩ :=
      collectAndReport_of_drains layout timestamp hclock hstop hdrains
    rw [houtcome]
    exact ⟨report, hcovers, hexported.eq_ok_iff, hexported.read, hexported⟩

/-! Two runs -/

/-- The places of the pod that `podOptions` name. -/
def podLayout : PinLayout := ⟨"pod", "/pins/pod", "/pod"⟩

/-- An object into whose map of request ids the programs record in batches, one before each
drain. -/
def recordingObject (arriving : List (List (UInt64 × UInt64))) (failingWalks : List Nat) :
    Object :=
  completeObject { keySize := 8, valueSize := 8, arriving, failingWalks }

/-- The system on which a run for Thrift begins to collect. -/
def thriftStarted (object : Object) : System :=
  ((prepare (podOptions .thrift) podLayout).execute (podSystem object)).2

/-- A run that is prepared begins to collect on `thriftStarted`. -/
theorem prepare_thriftStarted (object : Object)
    (h : ((prepare (podOptions .thrift) podLayout).execute (podSystem object)).1.isOk) :
    (prepare (podOptions .thrift) podLayout).execute (podSystem object) =
      (.ok (), thriftStarted object) := by
  obtain ⟨⟨⟩, hok⟩ := exists_eq_ok_iff.mpr h
  exact Prod.ext hok rfl

/-- Request ids that come before the first and before the last drain. -/
def numberedTwice : Object := recordingObject [[(7, 42)], [], [], [(7, 43)]] []

/-- A number comes twice, and the request id of the last drain is in the report. -/
theorem drained_correlations_reported_numberedTwice :
    Removes (beforeDrain (thriftStarted numberedTwice) 0) ⟨7, 42⟩ ∧
      Removes (beforeDrain (thriftStarted numberedTwice) 3) ⟨7, 43⟩ ∧
      ∃ report : Report,
        ((run (podOptions .thrift) "now" none).execute (podSystem numberedTwice)).2.files.read
            "/report" = .ok (.text (report.render .pretty)) ∧
          ⟨7, 43⟩ ∈ report.correlations.records := by
  have hprepared := prepare_thriftStarted numberedTwice (by decide +kernel)
  have hremoved : Removes (beforeDrain (thriftStarted numberedTwice) 3) ⟨7, 43⟩ := by
    decide +kernel
  have hdrains : ∀ n ≤ 3, Drains (beforeDrain (thriftStarted numberedTwice) n) := by
    decide +kernel
  have houtput : (thriftStarted numberedTwice).files.place "/report" = .ok ["report"] :=
    eq_ok_iff_toOption.mpr (by decide +kernel)
  have hunlimited : (thriftStarted numberedTwice).files.limits ["report"] = none := by
    decide +kernel
  have hlayout : PinLayout.ofCgroup (podOptions .thrift).pinRoot (podOptions .thrift).cgroupRoot
      (podOptions .thrift).cgroup = .ok podLayout := rfl
  have hstop : Stop.first (podOptions .thrift).duration none = some ⟨.duration, 12⟩ := rfl
  obtain ⟨-, hcollects⟩ := drained_correlations_reported "now" hlayout rfl hprepared hstop
  obtain ⟨report, hcontains, hreported, hread, -⟩ := hcollects ⟨by decide, hdrains⟩
  have hwhole := hreported.mpr
    ⟨["report"], houtput, by rw [FileTree.exceeded?, hunlimited, Option.filter_none]⟩
  refine ⟨by decide +kernel, hremoved, report, hread hwhole, ?_⟩
  rcases hcontains 3 (by decide) _ hremoved with hmem | ⟨m, hlater, hlast, -⟩
  · exact hmem
  · exact absurd hlater (Nat.not_lt.mpr hlast)

/-- Request ids that come before the first drain; no other drain can read the map. -/
def readableOnce : Object := recordingObject [[(7, 42)]] [1, 2, 3]

/-- **A drained correlation can be lost.**  The first drain removes a correlation and the second
one fails, as all others would.  The run ends without a report, and nothing is at the output
path. -/
theorem drained_correlation_lost :
    (prepare (podOptions .thrift) podLayout).execute (podSystem readableOnce) =
        (.ok (), thriftStarted readableOnce) ∧
      Removes (beforeDrain (thriftStarted readableOnce) 0) ⟨7, 42⟩ ∧
      (∀ m ≤ 3, 0 < m → ¬ Drains (beforeDrain (thriftStarted readableOnce) m)) ∧
      exitCode? ((run (podOptions .thrift) "now" none).execute (podSystem readableOnce)).1 =
        some 1 ∧
      ((run (podOptions .thrift) "now" none).execute (podSystem readableOnce)).2.files.leads
        "/report" = false := by
  exact ⟨prepare_thriftStarted readableOnce (by decide +kernel), by decide +kernel,
    by decide +kernel, by decide +kernel, by decide +kernel⟩

end Command

end MeshTrace
