import Mathlib.Data.String.Basic
import TraefikManager.Foundation.Newest
import TraefikManager.Scripts.HistoryLines

/-!
# What the deployment history keeps

However often the history has been rotated, the `.daily` file is the compaction of everything
that had been appended by the last rotation, and the current file goes on from there. So the
latest entry of a day is kept until enough later days have entries.
-/

namespace TraefikManager.Scripts

open Foundation

variable {limits : HistoryLimits} {entry : HistoryEntry} {day : String} {files : HistoryFiles}
  {entries sources rotated kept archive fresh since : List HistoryEntry}

section LastOfDay

/-- The days on which entries were completed. -/
def days (entries : List HistoryEntry) : List String := (entries.map HistoryEntry.day).filter isDay

private theorem mem_days :
    day ∈ days entries ↔ isDay day = true ∧ ∃ entry ∈ entries, entry.day = day := by
  simp [days, and_comm]

private theorem days_subset (subset : entries ⊆ sources) : days entries ⊆ days sources := by
  intro day listed
  obtain ⟨isDate, entry, inEntries, ofDay⟩ := mem_days.mp listed
  exact mem_days.mpr ⟨isDate, entry, subset inEntries, ofDay⟩

private theorem of_lastOfDay (last : lastOfDay entries day = some entry) :
    entry ∈ entries ∧ entry.day = day := by
  have ofDay := List.find?_some last
  exact ⟨List.mem_reverse.mp (List.mem_of_find?_eq_some last), of_decide_eq_true ofDay⟩

private theorem exists_lastOfDay (listed : entry ∈ entries) (ofDay : entry.day = day) :
    ∃ last, lastOfDay entries day = some last := by
  apply Option.isSome_iff_exists.mp
  rw [lastOfDay, List.find?_isSome]
  exact ⟨entry, List.mem_reverse.mpr listed, decide_eq_true ofDay⟩

private theorem lastOfDay_append (first second : List HistoryEntry) (day : String) :
    lastOfDay (first ++ second) day = (lastOfDay second day).or (lastOfDay first day) := by
  rw [lastOfDay, List.reverse_append, List.find?_append]
  rfl

/-- The last line of a day in the end of a list is the last one of the list. -/
theorem lastOfDay_of_suffix (isSuffix : kept <:+ entries) (last : lastOfDay kept day = some entry) :
    lastOfDay entries day = some entry := by
  obtain ⟨before, rfl⟩ := isSuffix
  rw [lastOfDay_append, last, Option.some_or]

end LastOfDay

section Compacting

private theorem compactDailyHistory_eq (limits : HistoryLimits) (sources : List HistoryEntry) :
    compactDailyHistory limits sources =
      (newest limits.dailyRetainEntries (days sources)).filterMap (lastOfDay sources) := rfl

/-- A compaction holds the last entry of each of the newest days. -/
theorem mem_compactDailyHistory : entry ∈ compactDailyHistory limits sources ↔
    entry.day ∈ newest limits.dailyRetainEntries (days sources) ∧
      lastOfDay sources entry.day = some entry := by
  rw [compactDailyHistory_eq, List.mem_filterMap]
  constructor
  · intro listed
    obtain ⟨day, isNewest, last⟩ := listed
    rw [← (of_lastOfDay last).2] at isNewest last
    exact ⟨isNewest, last⟩
  · intro listed
    exact ⟨entry.day, listed⟩

private theorem compactDailyHistory_subset : compactDailyHistory limits sources ⊆ sources := by
  intro entry listed
  exact (of_lastOfDay (mem_compactDailyHistory.mp listed).2).1

/-- The days of a compaction are the newest ones, in order. -/
theorem map_day_compactDailyHistory (limits : HistoryLimits) (sources : List HistoryEntry) :
    (compactDailyHistory limits sources).map HistoryEntry.day =
      newest limits.dailyRetainEntries (days sources) := by
  have each : ∀ day ∈ newest limits.dailyRetainEntries (days sources),
      (lastOfDay sources day).map HistoryEntry.day = some day := by
    intro day isNewest
    obtain ⟨-, entry, listed, ofDay⟩ := mem_days.mp (newest_subset isNewest)
    obtain ⟨last, isLast⟩ := exists_lastOfDay listed ofDay
    rw [isLast, Option.map_some, (of_lastOfDay isLast).2]
  rw [compactDailyHistory_eq, List.map_filterMap, List.filterMap_congr each, List.filterMap_some]

private theorem length_compactDailyHistory_le :
    (compactDailyHistory limits sources).length ≤ limits.dailyRetainEntries := by
  rw [compactDailyHistory_eq, newest, List.rtake_eq_reverse_take_reverse]
  refine (List.length_filterMap_le _ _).trans ?_
  rw [List.length_reverse]
  exact List.length_take_le _ _

/-- For the newest days a compaction is as good as what it was made of. -/
theorem lastOfDay_compactDailyHistory
    (isNewest : day ∈ newest limits.dailyRetainEntries (days sources)) :
    lastOfDay (compactDailyHistory limits sources) day = lastOfDay sources day := by
  rw [← map_day_compactDailyHistory] at isNewest
  obtain ⟨entry, listed, ofDay⟩ := List.mem_map.mp isNewest
  obtain ⟨last, isLast⟩ := exists_lastOfDay listed ofDay
  obtain ⟨inCompaction, same⟩ := of_lastOfDay isLast
  rw [isLast, ← same, (mem_compactDailyHistory.mp inCompaction).2]

/-- Compacting what was compacted before, together with parts of it and with what is new, is
compacting everything. -/
theorem compactDailyHistory_again (archived : archive <:+ rotated) (isKept : kept <:+ rotated) :
    compactDailyHistory limits (compactDailyHistory limits rotated ++ archive ++ (kept ++ fresh)) =
      compactDailyHistory limits (rotated ++ fresh) := by
  have subset : compactDailyHistory limits rotated ++ archive ++ (kept ++ fresh) ⊆
      rotated ++ fresh := by
    intro entry listed
    simp only [List.mem_append] at listed ⊢
    obtain (compacted | inArchive) | inKept | isFresh := listed
    · exact .inl (compactDailyHistory_subset compacted)
    · exact .inl (archived.subset inArchive)
    · exact .inl (isKept.subset inKept)
    · exact .inr isFresh
  -- A day that is among the newest of all is new or was among the newest before.
  have before : ∀ day ∈ newest limits.dailyRetainEntries (days (rotated ++ fresh)),
      lastOfDay fresh day = none → day ∈ newest limits.dailyRetainEntries (days rotated) := by
    intro day isNewest notFresh
    obtain ⟨listed, few⟩ := mem_newest.mp isNewest
    obtain ⟨isDate, entry, inBoth, ofDay⟩ := mem_days.mp listed
    have inRotated : entry ∈ rotated := by
      obtain inRotated | isFresh := List.mem_append.mp inBoth
      · exact inRotated
      · obtain ⟨last, isLast⟩ := exists_lastOfDay isFresh ofDay
        rw [isLast] at notFresh
        cases notFresh
    apply mem_newest.mpr
    refine ⟨mem_days.mpr ⟨isDate, entry, inRotated, ofDay⟩, ?_⟩
    exact (Finset.card_le_card (later_mono (days_subset (List.subset_append_left _ _)))).trans_lt few
  have last : ∀ day ∈ newest limits.dailyRetainEntries (days (rotated ++ fresh)),
      lastOfDay (compactDailyHistory limits rotated ++ archive ++ (kept ++ fresh)) day =
        lastOfDay (rotated ++ fresh) day := by
    intro day isNewest
    simp only [lastOfDay_append]
    cases isFresh : lastOfDay fresh day with
    | some entry => rfl
    | none =>
        simp only [Option.none_or]
        cases inKept : lastOfDay kept day with
        | some entry => rw [lastOfDay_of_suffix isKept inKept, Option.some_or]
        | none =>
            rw [Option.none_or]
            cases inArchive : lastOfDay archive day with
            | some entry => rw [lastOfDay_of_suffix archived inArchive, Option.some_or]
            | none =>
                rw [Option.none_or]
                exact lastOfDay_compactDailyHistory (before day isNewest isFresh)
  have sameDays : newest limits.dailyRetainEntries
      (days (compactDailyHistory limits rotated ++ archive ++ (kept ++ fresh))) =
        newest limits.dailyRetainEntries (days (rotated ++ fresh)) := by
    apply newest_eq_of_subset (days_subset subset)
    intro day isNewest
    obtain ⟨isDate, entry, listed, ofDay⟩ := mem_days.mp (newest_subset isNewest)
    obtain ⟨found, isFound⟩ := exists_lastOfDay listed ofDay
    rw [← last day isNewest] at isFound
    obtain ⟨inSources, ofDay⟩ := of_lastOfDay isFound
    exact mem_days.mpr ⟨isDate, found, inSources, ofDay⟩
  rw [compactDailyHistory_eq limits (_ ++ (kept ++ fresh)), sameDays]
  exact List.filterMap_congr last

end Compacting

section Runs

/-- A sequence of appends, from no files at all. -/
def appendAll (limits : HistoryLimits) (entries : List HistoryEntry) : HistoryFiles :=
  entries.foldl (fun files entry => appendHistory limits entry files) .none

/-- What the files hold when the last rotation was after `rotated`. -/
structure Holds (limits : HistoryLimits) (rotated since : List HistoryEntry)
    (files : HistoryFiles) : Prop where
  current : ∃ kept, kept <:+ rotated ∧ files.current.getD [] = kept ++ since
  archive : files.archive.getD [] <:+ rotated
  daily : files.daily.getD [] = compactDailyHistory limits rotated

private theorem holds_none (limits : HistoryLimits) : Holds limits [] [] .none where
  current := ⟨[], List.suffix_rfl, rfl⟩
  archive := List.suffix_rfl
  daily := (List.subset_nil.mp compactDailyHistory_subset).symm

/-- An append keeps the lines since the last rotation, or rotates them. -/
theorem Holds.appendHistory (holds : Holds limits rotated since files) (entry : HistoryEntry) :
    Holds limits rotated (since ++ [entry]) (appendHistory limits entry files) ∨
      Holds limits (rotated ++ (since ++ [entry])) [] (appendHistory limits entry files) := by
  obtain ⟨kept, isKept, current⟩ := holds.current
  unfold Scripts.appendHistory rotateHistory
  rw [Option.getD_some, current, List.append_assoc]
  dsimp only
  split
  · exact .inl
      { current := ⟨kept, isKept, rfl⟩
        archive := holds.archive
        daily := holds.daily }
  · have isSuffix : kept ++ (since ++ [entry]) <:+ rotated ++ (since ++ [entry]) := by
      obtain ⟨before, rfl⟩ := isKept
      exact ⟨before, by rw [List.append_assoc]⟩
    right
    refine
      { current := ⟨_, (List.drop_suffix _ _).trans isSuffix, (List.append_nil _).symm⟩
        archive := isSuffix
        daily := ?_ }
    rw [Option.getD_some, holds.daily]
    exact compactDailyHistory_again holds.archive isKept

/-- The files after a sequence of appends. -/
theorem exists_holds (limits : HistoryLimits) (entries : List HistoryEntry) :
    ∃ rotated since, entries = rotated ++ since ∧
      Holds limits rotated since (appendAll limits entries) := by
  induction entries using List.reverseRecOn with
  | nil => exact ⟨[], [], rfl, holds_none limits⟩
  | append_singleton entries entry ih =>
      obtain ⟨rotated, since, rfl, holds⟩ := ih
      have step : appendAll limits (rotated ++ since ++ [entry]) =
          Scripts.appendHistory limits entry (appendAll limits (rotated ++ since)) := by
        simp [appendAll]
      rw [step]
      obtain goesOn | rotates := holds.appendHistory entry
      · exact ⟨rotated, since ++ [entry], List.append_assoc _ _ _, goesOn⟩
      · exact ⟨rotated ++ (since ++ [entry]), [], by simp, rotates⟩

private theorem Holds.all_subset (holds : Holds limits rotated since files) :
    files.all ⊆ rotated ++ since := by
  obtain ⟨kept, isKept, current⟩ := holds.current
  intro entry listed
  simp only [HistoryFiles.all, current, holds.daily, List.mem_append] at listed ⊢
  obtain ((inKept | isSince) | inArchive) | inDaily := listed
  · exact .inl (isKept.subset inKept)
  · exact .inr isSince
  · exact .inl (holds.archive.subset inArchive)
  · exact .inl (compactDailyHistory_subset inDaily)

/-- The latest entry of a day is in the files unless enough later days have entries. -/
theorem mem_all_of_lastOfDay (isDate : isDay day = true)
    (last : lastOfDay entries day = some entry) :
    entry ∈ (appendAll limits entries).all ∨
      limits.dailyRetainEntries ≤ (later (days entries) day).card := by
  obtain ⟨rotated, since, rfl, holds⟩ := exists_holds limits entries
  obtain ⟨kept, -, current⟩ := holds.current
  rw [lastOfDay_append] at last
  cases isSince : lastOfDay since day with
  | some newest =>
      rw [isSince, Option.some_or] at last
      left
      simp only [HistoryFiles.all, current, List.mem_append]
      exact .inl (.inl (.inr (Option.some.inj last ▸ (of_lastOfDay isSince).1)))
  | none =>
      rw [isSince, Option.none_or] at last
      obtain ⟨inRotated, ofDay⟩ := of_lastOfDay last
      by_cases isNewest : day ∈ newest limits.dailyRetainEntries (days rotated)
      · left
        simp only [HistoryFiles.all, holds.daily, List.mem_append]
        right
        subst ofDay
        exact mem_compactDailyHistory.mpr ⟨isNewest, last⟩
      · right
        apply count_le_card_later (mem_days.mpr ⟨isDate, entry, inRotated, ofDay⟩) isNewest
        exact List.Subset.trans newest_subset (days_subset (List.subset_append_left _ _))

/-- The days of the `.daily` file are in order. -/
theorem Holds.pairwise_daily (holds : Holds limits rotated since files) :
    ((files.daily.getD []).map HistoryEntry.day).Pairwise (· < ·) := by
  rw [holds.daily, map_day_compactDailyHistory]
  exact pairwise_newest _ _

end Runs

section Files

/-- All lines in the files. -/
def HistoryTexts.all (texts : HistoryTexts) : List (List Char) :=
  texts.current.getD [] ++ texts.archive.getD [] ++ texts.daily.getD []

/-- `append_history` for one entry after the other, from no files at all. -/
def appendLines (limits : HistoryLimits) (entries : List HistoryEntry) : HistoryTexts :=
  entries.foldl (fun texts entry => appendLine limits entry.line texts) HistoryFiles.none.texts

private theorem getD_map_line (file : Option (List HistoryEntry)) :
    (file.map (·.map HistoryEntry.line)).getD [] = (file.getD []).map HistoryEntry.line := by
  cases file <;> rfl

private theorem texts_all (files : HistoryFiles) :
    files.texts.all = files.all.map HistoryEntry.line := by
  simp only [HistoryTexts.all, HistoryFiles.texts, HistoryFiles.all, getD_map_line,
    List.map_append]

private theorem all_appendAll_subset (limits : HistoryLimits) (entries : List HistoryEntry) :
    (appendAll limits entries).all ⊆ entries := by
  obtain ⟨rotated, since, rfl, holds⟩ := exists_holds limits entries
  exact holds.all_subset

private theorem appendAll_concat (entries : List HistoryEntry) (entry : HistoryEntry) :
    appendAll limits (entries ++ [entry]) = appendHistory limits entry (appendAll limits entries) := by
  simp [appendAll]

/-- The files of lines are the files of entries, whatever was appended. -/
theorem appendLines_eq (limits : HistoryLimits) (readable : ReadableDays entries) :
    appendLines limits entries = (appendAll limits entries).texts := by
  induction entries using List.reverseRecOn with
  | nil => rfl
  | append_singleton entries entry ih =>
      obtain ⟨before, last⟩ := List.forall_mem_append.mp readable
      obtain ⟨clean, isDate⟩ := last entry (List.mem_singleton_self entry)
      have readableFiles : ReadableDays (appendAll limits entries).all := fun other listed =>
        before other (all_appendAll_subset limits entries listed)
      rw [appendAll_concat, texts_appendHistory limits readableFiles clean isDate, ← ih before,
        appendLines, List.foldl_append]
      rfl

private theorem length_current_appendAll (limits : HistoryLimits) (entries : List HistoryEntry) :
    ((appendAll limits entries).current.getD []).length ≤ limits.maxEntries := by
  induction entries using List.reverseRecOn with
  | nil => exact Nat.zero_le _
  | append_singleton entries entry ih =>
      rw [appendAll_concat, current_appendHistory, Option.getD_some]
      split
      · rename_i short
        rw [List.length_append, List.length_singleton]
        exact short
      · have fewer := limits.retain_lt_max
        rw [List.rtake, List.length_drop]
        omega

/-- What the files hold when these entries were appended. -/
structure HistoryKept (limits : HistoryLimits) (entries : List HistoryEntry)
    (texts : HistoryTexts) : Prop where
  /-- The entry that was appended last is the last line of the current file. -/
  ends : ∀ entry, entries.getLast? = some entry →
    (texts.current.getD []).getLast? = some entry.line
  /-- The latest entry of a day is in a file until enough later days have entries. -/
  latest : ∀ day entry, isDay day = true → lastOfDay entries day = some entry →
    entry.line ∈ texts.all ∨ limits.dailyRetainEntries ≤ (later (days entries) day).card
  /-- Every line is the JSON of an entry that was appended. -/
  honest : ∀ line ∈ texts.all, ∃ entry ∈ entries, line = entry.line ∧
    Json.loads (String.ofList line) = some (.object entry.fields)
  bounded : (texts.current.getD []).length ≤ limits.maxEntries ∧
    (texts.daily.getD []).length ≤ limits.dailyRetainEntries
  /-- The days of the `.daily` file are in order, each once. -/
  ordered : ((texts.daily.getD []).filterMap awkDay).Pairwise (· < ·)

/-- **The deployment history.** However many entries are appended and however often the files are
rotated, the files are bounded, hold nothing but lines of these entries, and keep the latest entry
of every day until enough later days have entries. -/
theorem appendLines_kept (limits : HistoryLimits) (readable : ReadableDays entries) :
    HistoryKept limits entries (appendLines limits entries) := by
  have inEntries := all_appendAll_subset limits entries
  obtain ⟨rotated, since, -, holds⟩ := exists_holds limits entries
  rw [appendLines_eq limits readable]
  refine ⟨?_, ?_, ?_, ⟨?_, ?_⟩, ?_⟩
  · intro entry isLast
    obtain ⟨before, rfl⟩ := List.getLast?_eq_some_iff.mp isLast
    rw [appendAll_concat, HistoryFiles.texts, getD_map_line, List.getLast?_map,
      getLast?_appendHistory]
    rfl
  · intro day entry isDate last
    refine (mem_all_of_lastOfDay isDate last).imp_left fun inFiles => ?_
    rw [texts_all]
    exact List.mem_map_of_mem inFiles
  · intro line listed
    rw [texts_all] at listed
    obtain ⟨entry, inFiles, rfl⟩ := List.mem_map.mp listed
    have clean := (readable entry (inEntries inFiles)).1
    exact ⟨entry, inEntries inFiles, rfl, clean.loads_line⟩
  · rw [HistoryFiles.texts, getD_map_line, List.length_map]
    exact length_current_appendAll limits entries
  · rw [HistoryFiles.texts, getD_map_line, List.length_map, holds.daily]
    exact length_compactDailyHistory_le
  · have readableDaily : ReadableDays ((appendAll limits entries).daily.getD []) :=
      fun entry inDaily => readable entry (inEntries (List.mem_append_right _ inDaily))
    rw [HistoryFiles.texts, getD_map_line, filterMap_awkDay readableDaily]
    exact holds.pairwise_daily.filter _

/-- A deployment to the green slot. -/
def sampleHistoryEntry (completedAt : String) : HistoryEntry where
  status := .success
  fromSlot := "blue"
  toSlot := "green"
  activeSlot := "green"
  version := "v1.4.2"
  revision := "0123456789abcdef0123456789abcdef01234567"
  startedAt := "2026-03-01T09:00:00Z"
  completedAt := completedAt
  probeTotal := 12
  probeFailures := 0
  failureStage := ""
  failureReason := ""
  alertRequestStatus := "not_needed"
  alertChannel := ""
  alertRunUrl := ""
  stageDurationsMs := [(.build, 60000), (.routeSwitch, 900)]

/-- Three deployments on two days; the files are rotated after the last one. -/
theorem appendLines_kept_sample :
    HistoryKept ⟨2, 1, 1, by decide, by decide, by decide⟩
      [sampleHistoryEntry "2026-03-01T09:05:00Z", sampleHistoryEntry "2026-03-01T21:05:00Z",
        sampleHistoryEntry "2026-03-02T09:05:00Z"]
      (appendLines ⟨2, 1, 1, by decide, by decide, by decide⟩
        [sampleHistoryEntry "2026-03-01T09:05:00Z", sampleHistoryEntry "2026-03-01T21:05:00Z",
          sampleHistoryEntry "2026-03-02T09:05:00Z"]) := by
  refine appendLines_kept _ fun entry listed => ?_
  simp only [List.mem_cons, List.not_mem_nil, or_false] at listed
  obtain rfl | rfl | rfl := listed <;>
    exact ⟨⟨by decide, by decide, by decide⟩, by decide⟩

end Files

end TraefikManager.Scripts
