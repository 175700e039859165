import RealTube.Model.Export
import RealTube.Store.Steps

/-!
# The newest export

The endpoints know nothing of the script: they take the greatest name. As the names hold the date
(`exportName_lt`), and the script runs one at a time, that is the last export that was finished, as
long as no run is killed while it compresses: it would leave half a file under the greatest name.
Old exports are deleted at the end of a run, seven days after they were written, so the one just
written stays.

In every run without such a kill, and outside of compressing, both endpoints serve the last export
that was finished, whole, or answer that there is none (`exportHandler_of_run`).
-/

open Steps

namespace RealTube

/-! ### Names of exports -/

theorem toList_exportName (d : Date) :
    (exportName d).toList = "realtube-".toList ++ (d.compact ++ ".sql.gz".toList) := by
  exact String.toList_ofList.trans (List.append_assoc ..)

theorem length_compact (d : Date) : d.compact.length = 8 := by
  rw [Date.compact_eq, length_pad]

/-- **Names are ordered by their dates.** -/
theorem exportName_lt {d d' : Date} (h : d.number < d'.number) (hyear : d'.year < 10000) :
    exportName d < exportName d' := by
  rw [String.lt_iff_toList_lt, toList_exportName, toList_exportName]
  refine List.append_left_lt (append_lt_append ?_ (Date.compact_lt_compact h hyear))
  rw [length_compact, length_compact]

theorem exportName_le {d d' : Date} (h : d.number ≤ d'.number) (hyear : d'.year < 10000) :
    exportName d ≤ exportName d' := by
  rcases h.lt_or_eq with hlt | heq
  · exact (exportName_lt hlt hyear).le
  · exact (congrArg exportName (Date.number_injective heq)).le

/-- A name tells the date. -/
theorem exportName_injective {d d' : Date} (hd : d.year < 10000) (hd' : d'.year < 10000)
    (h : exportName d = exportName d') : d = d' := by
  rcases lt_trichotomy d.number d'.number with hlt | heq | hlt
  · exact absurd h (exportName_lt hlt hd').ne
  · exact Date.number_injective heq
  · exact absurd h (exportName_lt hlt hd).ne'

theorem globExports_exportName (d : Date) : globExports (exportName d) = true := by
  have hpre : "realtube-".toList.isPrefixOf (exportName d).toList = true := by
    rw [toList_exportName, List.isPrefixOf_iff_prefix]
    exact List.prefix_append _ _
  have hsuf : ".sql.gz".toList.isSuffixOf (exportName d).toList = true := by
    rw [toList_exportName, List.isSuffixOf_iff_suffix, ← List.append_assoc]
    exact List.suffix_append _ _
  have hlen : (exportName d).length = 24 := by
    rw [← String.length_toList, toList_exportName, List.length_append, List.length_append,
      length_compact]
    rfl
  rw [globExports, hpre, hsuf, hlen]
  rfl

/-- Digits may stand in a name. -/
theorem isFilenameChar_of_isDigit {c : Char} (h : c.isDigit = true) : isFilenameChar c = true := by
  rw [isFilenameChar, Char.isAlphanum, h, Bool.or_true]
  rfl

theorem isFilenameChar_of_mem_exportName {d : Date} {c : Char} (h : c ∈ (exportName d).toList) :
    isFilenameChar c = true := by
  rw [toList_exportName, List.mem_append, List.mem_append] at h
  rcases h with h | h | h
  · exact List.all_eq_true.1 (by decide : "realtube-".toList.all isFilenameChar = true) c h
  · rw [Date.compact_eq] at h
    exact isFilenameChar_of_isDigit (isDigit_of_mem_pad h)
  · exact List.all_eq_true.1 (by decide : ".sql.gz".toList.all isFilenameChar = true) c h

theorem safeExportFilename_exportName (anchor : Text.EndAnchor) (d : Date) :
    safeExportFilename anchor (exportName d) = true := by
  have hdrop : (exportName d).toList.drop 17 = ".sql.gz".toList := by
    rw [toList_exportName, ← List.append_assoc]
    exact List.drop_left' (by rw [List.length_append, length_compact]; rfl)
  have hlen : 16 < (exportName d).length := by
    rw [← String.length_toList, toList_exportName, List.length_append, List.length_append,
      length_compact]
    decide
  rw [safeExportFilename, List.any_eq_true]
  have hall : ((exportName d).toList.take (16 + 1)).all isFilenameChar = true :=
    List.all_eq_true.2 fun c hc ↦ isFilenameChar_of_mem_exportName (List.mem_of_mem_take hc)
  refine ⟨16, List.mem_range.2 hlen, ?_⟩
  rw [hall, hdrop, show (exportName d).toList.drop (16 + 1 + 7) = [] from by
    rw [← List.drop_drop, hdrop]
    rfl]
  cases anchor <;> rfl

/-- The files the script leaves behind when it is killed. -/
def tmpNames : List String := [tmpFile, tmpUsers, tmpVotes]

/-- They are no exports. -/
theorem not_suffix_of_mem_tmpNames {name : String} (h : name ∈ tmpNames) :
    ".sql.gz".toList.isSuffixOf name.toList = false := by
  have hall : tmpNames.all fun name ↦ !".sql.gz".toList.isSuffixOf name.toList := by decide +kernel
  simpa using List.all_eq_true.1 hall name h

theorem not_globExports_of_mem_tmpNames {name : String} (h : name ∈ tmpNames) :
    globExports name = false := by
  rw [globExports, not_suffix_of_mem_tmpNames h, Bool.and_false, Bool.false_and]

theorem exportName_notMem_tmpNames (d : Date) : exportName d ∉ tmpNames := fun h ↦
  Bool.false_ne_true ((not_globExports_of_mem_tmpNames h).symm.trans (globExports_exportName d))

/-! ### The greatest name -/

/-- **The last of the sorted names** is the greatest. -/
theorem lastName_eq_some_iff {names : List String} {m : String} :
    lastName names = some m ↔ m ∈ names ∧ ∀ name ∈ names, name ≤ m := by
  have hgreatest {m : String} (h : lastName names = some m) : ∀ name ∈ names, name ≤ m := by
    intro name hname
    obtain ⟨hne, hlast⟩ := List.mem_getLast?_eq_getLast (show m ∈ _ from h)
    have hmem := (List.mem_insertionSort (· ≤ ·)).2 hname
    rw [← List.dropLast_append_getLast hne, List.mem_append, List.mem_singleton, ← hlast] at hmem
    rcases hmem with hmem | rfl
    · have hsorted := List.pairwise_insertionSort (· ≤ ·) names
      rw [← List.dropLast_append_getLast hne, List.pairwise_append, ← hlast] at hsorted
      exact hsorted.2.2 name hmem m (List.mem_singleton_self m)
    · exact le_rfl
  constructor
  · intro h
    exact ⟨(List.mem_insertionSort (· ≤ ·)).1 (List.mem_of_getLast? h), hgreatest h⟩
  · rintro ⟨hmem, hle⟩
    rcases h : lastName names with - | m'
    · rw [lastName, List.getLast?_eq_none_iff] at h
      exact absurd ((List.mem_insertionSort (· ≤ ·)).2 hmem) (h ▸ List.not_mem_nil)
    · have hmem' := (List.mem_insertionSort (· ≤ ·)).1 (List.mem_of_getLast? h)
      exact congrArg some (le_antisymm (hle m' hmem') (hgreatest h m hmem))

theorem lastName_eq_none_iff {names : List String} : lastName names = none ↔ names = [] := by
  rw [lastName, List.getLast?_eq_none_iff, ← List.length_eq_zero_iff, List.length_insertionSort,
    List.length_eq_zero_iff]

/-! ### The invariant -/

namespace ExportSys

open ScriptCommand

/-- The script is compressing. -/
def Compressing (sys : ExportSys) : Prop := sys.todo.head? = some gzip

instance (sys : ExportSys) : Decidable sys.Compressing := inferInstanceAs (Decidable (_ = _))

/-- No run is killed while it compresses, old exports are deleted within a week of compressing, and
years have four digits. -/
def Orderly (sys : ExportSys) : ExportEvent → Prop
  | .start => sys.today.year < 10000
  | .kill => ¬sys.Compressing
  | .command => sys.todo.head? = some deleteOld →
      ∀ file ∈ sys.files.lookup (exportName sys.date), sys.now < file.mtime + 8 * daySeconds
  | _ => True

instance (sys : ExportSys) (e : ExportEvent) : Decidable (Orderly sys e) :=
  match e with
  | .start => inferInstanceAs (Decidable (_ < _))
  | .kill => inferInstanceAs (Decidable (¬_))
  | .command => inferInstanceAs (Decidable (_ → ∀ file ∈ sys.files.lookup _, _ < _))
  | .pass _ | .commit _ | .psqlFails => .isTrue trivial

/-- **The invariant**: every export in the directory is the one being compressed, or no newer than
the last that was finished, which is there. -/
structure Inv (sys : ExportSys) : Prop where
  date_le : sys.date.number ≤ sys.today.number
  year_lt : sys.date.year < 10000
  todo : sys.todo <:+ exportScript
  names : ∀ name file, sys.files.lookup name = some file → name ∈ tmpNames ∨
    ∃ d, name = exportName d ∧ (sys.Compressing ∧ d = sys.date ∨
      ∃ d' c, sys.latest = some (d', c) ∧ d.number ≤ d'.number)
  latest : ∀ d c, sys.latest = some (d, c) → d.number ≤ sys.date.number ∧
    (sys.Compressing ∧ d = sys.date ∨
      ∃ file, sys.files.lookup (exportName d) = some file ∧ file.content = c ∧ file.whole = true)
  written : deleteOld ∈ sys.todo → gzip ∉ sys.todo → ∃ c, sys.latest = some (sys.date, c)

theorem inv_init (db : SyncDB) : (init db).Inv where
  date_le := by
    show (Date.ofDay 0).number ≤ (Date.ofDay (0 / daySeconds)).number
    exact Date.number_ofDay_le (Nat.zero_le _)
  year_lt := by
    show 1970 < 10000
    decide
  todo := List.nil_suffix
  names _ _ h := nomatch h
  latest _ _ h := nomatch h
  written h := absurd h List.not_mem_nil

variable {sys sys' : ExportSys}

/-- A later day has no smaller date. -/
theorem today_le {t t' : ℕ} (h : t ≤ t') :
    (Date.ofDay (t / daySeconds)).number ≤ (Date.ofDay (t' / daySeconds)).number :=
  Date.number_ofDay_le (Nat.div_le_div_right h)

/-- **Temporary files** do not matter, nor does what is left to do when nothing is being
compressed. -/
theorem Inv.frame (h : sys.Inv) (hcompressing : ¬sys.Compressing) (hnow : sys.now ≤ sys'.now)
    (hdate : sys'.date = sys.date) (hlatest : sys'.latest = sys.latest)
    (htodo : sys'.todo <:+ exportScript)
    (hfiles : ∀ name ∉ tmpNames, sys'.files.lookup name = sys.files.lookup name)
    (hwritten : deleteOld ∈ sys'.todo → gzip ∉ sys'.todo → ∃ c, sys.latest = some (sys.date, c)) :
    sys'.Inv where
  date_le := hdate ▸ h.date_le.trans (today_le hnow)
  year_lt := hdate ▸ h.year_lt
  todo := htodo
  names name file hname := by
    by_cases htmp : name ∈ tmpNames
    · exact Or.inl htmp
    · rw [hfiles name htmp] at hname
      obtain ⟨d, rfl, hd⟩ := (h.names name file hname).resolve_left htmp
      exact Or.inr ⟨d, rfl, Or.inr (hlatest ▸ hd.resolve_left fun hc ↦ hcompressing hc.1)⟩
  latest d c hd := by
    obtain ⟨hle, hfile⟩ := h.latest d c (hlatest ▸ hd)
    refine ⟨hdate ▸ hle, Or.inr ?_⟩
    rw [hfiles _ (exportName_notMem_tmpNames d)]
    exact hfile.resolve_left fun hc ↦ hcompressing hc.1
  written h₁ h₂ := hlatest ▸ hdate ▸ hwritten h₁ h₂

/-- What is left after a command is left of the script. -/
theorem suffix_of_cons {c : ScriptCommand} {rest : List ScriptCommand}
    (h : c :: rest <:+ exportScript) : rest <:+ exportScript := (List.suffix_cons c rest).trans h

/-- Compressing comes after opening the file, and nothing after deleting old exports. -/
theorem rest_of_suffix {c : ScriptCommand} {rest : List ScriptCommand}
    (h : c :: rest <:+ exportScript) : (c = openOutfile → rest = [gzip, rmTmp, deleteOld]) ∧
      (c = deleteOld → rest = []) := by
  have hall : ∀ todo ∈ exportScript.tails, (todo.head? = some openOutfile →
      todo.tail = [gzip, rmTmp, deleteOld]) ∧ (todo.head? = some deleteOld → todo.tail = []) := by
    decide
  obtain ⟨hopen, hdelete⟩ := hall _ ((List.mem_tails _ _).2 h)
  exact ⟨fun hc ↦ hopen (congrArg some hc), fun hc ↦ hdelete (congrArg some hc)⟩

/-- The commands that write or remove temporary files only. -/
def isTmpCommand (c : ScriptCommand) : Bool := c ≠ openOutfile && c ≠ gzip && c ≠ deleteOld

/-- Nothing but temporary files, and what is left to do, has changed. -/
structure SameExports (sys sys' : ExportSys) : Prop where
  now : sys'.now = sys.now
  date : sys'.date = sys.date
  latest : sys'.latest = sys.latest
  files : ∀ name ∉ tmpNames, sys'.files.lookup name = sys.files.lookup name

theorem sameExports_append {name : String} (h : name ∈ tmpNames) (sys : ExportSys)
    (pieces : List Piece) : SameExports sys (sys.append name pieces) where
  now := rfl
  date := rfl
  latest := rfl
  files _ hname := Table.lookup_insert_of_ne _ _ fun heq ↦ hname (heq ▸ h)

theorem sameExports_rm {name : String} (h : name ∈ tmpNames) (sys : ExportSys) :
    SameExports sys (sys.rm name) where
  now := rfl
  date := rfl
  latest := rfl
  files _ hname := Table.lookup_erase_of_ne _ fun heq ↦ hname (heq ▸ h)

/-- Most commands write or remove temporary files only. -/
theorem sameExports_execute {c : ScriptCommand} (hc : isTmpCommand c = true) (sys : ExportSys) :
    SameExports sys (sys.execute c) := by
  have htmp : tmpFile ∈ tmpNames := by decide +kernel
  have husers : tmpUsers ∈ tmpNames := by decide +kernel
  have hvotes : tmpVotes ∈ tmpNames := by decide +kernel
  cases c with
  | dumpSchema =>
    exact ⟨rfl, rfl, rfl, fun _ hname ↦
      Table.lookup_insert_of_ne _ _ fun heq ↦ hname (heq ▸ htmp)⟩
  | dumpTable _ | catUsers | catVotes => exact sameExports_append htmp _ _
  | selectUsers => exact sameExports_append husers _ _
  | selectVotes => exact sameExports_append hvotes _ _
  | rmUsers => exact sameExports_rm husers _
  | rmVotes => exact sameExports_rm hvotes _
  | rmTmp => exact sameExports_rm htmp _
  | openOutfile | gzip | deleteOld => cases hc

/-- `psql` writes to temporary files only. -/
theorem isTmpCommand_of_psqlTarget {c : ScriptCommand} {name : String}
    (h : psqlTarget c = some name) : isTmpCommand c = true ∧ name ∈ tmpNames := by
  rw [psqlTarget.eq_def] at h
  split at h
  · exact ⟨rfl, Option.some.inj h ▸ by decide +kernel⟩
  · exact ⟨rfl, Option.some.inj h ▸ by decide +kernel⟩
  · cases h

/-- **A run starts**, under the date of today. -/
theorem Inv.start (h : sys.Inv) (htodo : sys.todo = []) (hyear : sys.today.year < 10000) :
    Inv { sys with todo := exportScript, date := sys.today } where
  date_le := le_rfl
  year_lt := hyear
  todo := List.suffix_rfl
  names name file hname := by
    refine (h.names name file hname).imp_right fun hname ↦ hname.imp fun d hd ↦ ⟨hd.1, Or.inr ?_⟩
    exact hd.2.resolve_left fun hc ↦ by simp [Compressing, htodo] at hc
  latest d c hd := by
    obtain ⟨hle, hfile⟩ := h.latest d c hd
    refine ⟨hle.trans h.date_le, Or.inr ?_⟩
    exact hfile.resolve_left fun hc ↦ by simp [Compressing, htodo] at hc
  written _ hgzip := absurd (by decide : gzip ∈ exportScript) hgzip

/-- **A command on temporary files**, or one that fails and goes on. -/
theorem Inv.tmp (h : sys.Inv) {c : ScriptCommand} {rest : List ScriptCommand}
    (htodo : sys.todo = c :: rest) (hc : isTmpCommand c = true) (hsame : SameExports sys sys') :
    Inv { sys' with todo := rest } := by
  have hne : c ≠ gzip := by
    rintro rfl
    cases hc
  refine h.frame (fun hcompressing ↦ ?_) hsame.now.ge hsame.date hsame.latest
    (suffix_of_cons (htodo ▸ h.todo)) hsame.files fun hdelete hgzip ↦ ?_
  · rw [Compressing, htodo, List.head?_cons, Option.some_inj] at hcompressing
    exact hne hcompressing
  · refine h.written (htodo ▸ List.mem_cons_of_mem c hdelete) fun hmem ↦ ?_
    rw [htodo, List.mem_cons] at hmem
    exact hmem.elim (fun heq ↦ hne heq.symm) hgzip

/-- **The file is opened**: it is there, and empty. -/
theorem Inv.openOutfile (h : sys.Inv) {rest : List ScriptCommand}
    (htodo : sys.todo = .openOutfile :: rest) :
    Inv { sys.execute .openOutfile with todo := rest } := by
  have hrest := (rest_of_suffix (htodo ▸ h.todo)).1 rfl
  have hnot : ¬sys.Compressing := by
    rw [Compressing, htodo, hrest]
    decide
  have hcompressing : Compressing { sys.execute .openOutfile with todo := rest } := by
    rw [Compressing, hrest]
    rfl
  refine ⟨h.date_le, h.year_lt, suffix_of_cons (htodo ▸ h.todo), fun name file hname ↦ ?_,
    fun d c hd ↦ ?_, fun _ hgzip ↦ absurd (hrest ▸ List.mem_cons_self ..) hgzip⟩
  · change (sys.files.insert _ _).lookup name = _ at hname
    rw [Table.lookup_insert] at hname
    split_ifs at hname with heq
    · exact Or.inr ⟨sys.date, heq, Or.inl ⟨hcompressing, rfl⟩⟩
    · refine (h.names name file hname).imp_right fun hname ↦ hname.imp fun d hd ↦ ⟨hd.1, Or.inr ?_⟩
      exact hd.2.resolve_left fun hc ↦ hnot hc.1
  · obtain ⟨hle, hfile⟩ := h.latest d c hd
    refine ⟨hle, ?_⟩
    by_cases heq : d = sys.date
    · exact Or.inl ⟨hcompressing, heq⟩
    · obtain ⟨file, hlook, hrest⟩ := hfile.resolve_left fun hc ↦ hnot hc.1
      have hyear : d.year < 10000 := by
        have hyear := h.year_lt
        rw [Date.year_eq] at hyear ⊢
        exact (Nat.div_le_div_right hle).trans_lt hyear
      refine Or.inr ⟨file, (Table.lookup_insert_of_ne _ _ fun hname ↦ ?_).trans hlook, hrest⟩
      exact heq (exportName_injective hyear h.year_lt hname)

/-- **The export is finished.** -/
theorem Inv.gzip (h : sys.Inv) {rest : List ScriptCommand} (htodo : sys.todo = .gzip :: rest) :
    Inv { sys.execute .gzip with todo := rest } where
  date_le := h.date_le
  year_lt := h.year_lt
  todo := suffix_of_cons (htodo ▸ h.todo)
  names name file hname := by
    change (sys.files.insert _ _).lookup name = _ at hname
    rw [Table.lookup_insert] at hname
    split_ifs at hname with heq
    · exact Or.inr ⟨sys.date, heq, Or.inr ⟨sys.date, _, rfl, le_rfl⟩⟩
    · refine (h.names name file hname).imp_right fun hname ↦
        hname.imp fun d hd ↦ ⟨hd.1, Or.inr ⟨sys.date, _, rfl, ?_⟩⟩
      rcases hd.2 with ⟨-, rfl⟩ | ⟨d', c, hlatest, hle⟩
      · exact le_rfl
      · exact hle.trans (h.latest d' c hlatest).1
  latest d c hd := by
    obtain ⟨rfl, rfl⟩ := Prod.mk.inj (Option.some.inj hd)
    exact ⟨le_rfl, Or.inr ⟨_, Table.lookup_insert_self _ _ _, rfl, rfl⟩⟩
  written _ _ := ⟨_, rfl⟩

/-- **Old exports are deleted**, but not the one just written. -/
theorem Inv.deleteOld (h : sys.Inv) {rest : List ScriptCommand}
    (htodo : sys.todo = .deleteOld :: rest)
    (hweek : ∀ file ∈ sys.files.lookup (exportName sys.date),
      sys.now < file.mtime + 8 * daySeconds) :
    Inv { sys.execute .deleteOld with todo := rest } := by
  have hrest := (rest_of_suffix (htodo ▸ h.todo)).2 rfl
  have hnot : ¬sys.Compressing := by
    rw [Compressing, htodo, hrest]
    decide
  obtain ⟨c, hlatest⟩ := h.written (htodo ▸ List.mem_cons_self ..) (by rw [htodo, hrest]; decide)
  refine ⟨h.date_le, h.year_lt, suffix_of_cons (htodo ▸ h.todo), fun name file hname ↦ ?_,
    fun d c' hd ↦ ?_, fun hdelete ↦ absurd hdelete (hrest ▸ List.not_mem_nil)⟩
  · change (sys.files.filter _).lookup name = _ at hname
    rw [Table.lookup_filter] at hname
    refine (h.names name file (Option.eq_some_of_filter_eq_some hname)).imp_right
      fun hname ↦ hname.imp fun d hd ↦ ⟨hd.1, Or.inr ?_⟩
    exact hd.2.resolve_left fun hc ↦ hnot hc.1
  · obtain ⟨rfl, rfl⟩ := Prod.mk.inj (Option.some.inj (hlatest.symm.trans hd))
    obtain ⟨file, hlook, hcontent⟩ := (h.latest _ _ hlatest).2.resolve_left fun hc ↦ hnot hc.1
    refine ⟨le_rfl, Or.inr ⟨file, ?_, hcontent⟩⟩
    have hyoung : olderThanSeven sys.now file = false := by
      have hlt := hweek file hlook
      rw [olderThanSeven, decide_eq_false_iff_not]
      simp only [daySeconds] at hlt ⊢
      omega
    change (sys.files.filter _).lookup _ = _
    rw [Table.lookup_filter, hlook, Option.filter_some, if_pos]
    simp [hyoung]

/-- **Every event keeps the invariant.** -/
theorem Inv.step (h : sys.Inv) {e : ExportEvent} (hord : Orderly sys e)
    (hs : sys.step e = some sys') : sys'.Inv := by
  match e with
  | .pass t =>
    exact Option.some.inj hs ▸
      { h with date_le := h.date_le.trans (today_le (Nat.le_add_right _ _)) }
  | .commit db => exact Option.some.inj hs ▸ { h with }
  | .start =>
    simp only [ExportSys.step] at hs
    split at hs
    · next htodo => exact Option.some.inj hs ▸ h.start htodo hord
    · cases hs
  | .command =>
    simp only [ExportSys.step] at hs
    split at hs
    · cases hs
    · next c rest htodo =>
      obtain rfl := Option.some.inj hs
      by_cases hopen : c = .openOutfile
      · exact hopen ▸ h.openOutfile (hopen ▸ htodo)
      by_cases hgzip : c = .gzip
      · exact hgzip ▸ h.gzip (hgzip ▸ htodo)
      by_cases hdelete : c = .deleteOld
      · subst hdelete
        exact h.deleteOld htodo (hord (by rw [htodo]; rfl))
      · have hc : isTmpCommand c = true := by simp [isTmpCommand, hopen, hgzip, hdelete]
        exact h.tmp htodo hc (sameExports_execute hc sys)
  | .psqlFails =>
    simp only [ExportSys.step] at hs
    split at hs
    · cases hs
    · next c rest htodo =>
      obtain ⟨name, hname, rfl⟩ := Option.map_eq_some_iff.1 hs
      obtain ⟨hc, hmem⟩ := isTmpCommand_of_psqlTarget hname
      exact h.tmp htodo hc (sameExports_append hmem sys [])
  | .kill =>
    refine Option.some.inj hs ▸ h.frame hord le_rfl rfl rfl List.nil_suffix (fun _ _ ↦ rfl)
      fun hmem ↦ absurd hmem List.not_mem_nil

/-! ### What is served -/

/-- The directory of the system, as the endpoints find it under an absolute path without symbolic
links: it holds regular files only. -/
def dir (sys : ExportSys) (path : String) (order : Arrangement String) : ExportDir where
  entries := (order.list sys.files.keys).map fun name ↦ (name, false)
  path := path
  absPath := path
  evalSymlinks := some

/-- **The greatest export** is the last that was finished. -/
theorem Inv.lastName_eq (h : sys.Inv) (hcompressing : ¬sys.Compressing) (path : String)
    (order : Arrangement String) (isExport : String × Bool → Bool)
    (hexport : ∀ d, isExport (exportName d, false) = true)
    (htmp : ∀ name ∈ tmpNames, isExport (name, false) = false) :
    lastName (((sys.dir path order).entries.filter isExport).map Prod.fst) =
      sys.latest.map fun x ↦ exportName x.1 := by
  have hmem (name : String) : name ∈ ((sys.dir path order).entries.filter isExport).map Prod.fst ↔
      isExport (name, false) = true ∧ ∃ file, sys.files.lookup name = some file := by
    simp only [dir, List.mem_map, List.mem_filter, order.mem_list, Finmap.mem_keys, Prod.exists]
    constructor
    · rintro ⟨name', b, ⟨⟨name'', hkey, heq⟩, hname⟩, rfl⟩
      obtain ⟨rfl, rfl⟩ := Prod.mk.inj heq
      exact ⟨hname, Finmap.mem_iff.1 hkey⟩
    · rintro ⟨hname, file, hfile⟩
      exact ⟨name, false, ⟨⟨name, Finmap.mem_of_lookup_eq_some hfile, rfl⟩, hname⟩, rfl⟩
  have hnames {name : String} (hname : isExport (name, false) = true)
      {file : ExportFile} (hfile : sys.files.lookup name = some file) :
      ∃ d, name = exportName d ∧ ∃ d' c, sys.latest = some (d', c) ∧ d.number ≤ d'.number := by
    obtain ⟨d, heq, hd⟩ := (h.names name file hfile).resolve_left fun hmem ↦
      Bool.false_ne_true ((htmp name hmem).symm.trans hname)
    exact ⟨d, heq, hd.resolve_left fun hc ↦ hcompressing hc.1⟩
  cases hlatest : sys.latest with
  | none =>
    refine lastName_eq_none_iff.2 (List.eq_nil_iff_forall_not_mem.2 fun name hname ↦ ?_)
    obtain ⟨hexp, file, hfile⟩ := (hmem name).1 hname
    obtain ⟨-, -, d', c, heq, -⟩ := hnames hexp hfile
    cases hlatest.symm.trans heq
  | some x =>
    obtain ⟨d, c⟩ := x
    obtain ⟨hle, hfile⟩ := h.latest d c hlatest
    obtain ⟨file, hlook, -⟩ := hfile.resolve_left fun hc ↦ hcompressing hc.1
    refine lastName_eq_some_iff.2 ⟨(hmem _).2 ⟨hexport d, file, hlook⟩, fun name hname ↦ ?_⟩
    obtain ⟨hexp, file', hfile'⟩ := (hmem name).1 hname
    obtain ⟨d₁, rfl, d', c', heq, hd₁⟩ := hnames hexp hfile'
    obtain ⟨rfl, rfl⟩ := Prod.mk.inj (Option.some.inj (hlatest.symm.trans heq))
    refine exportName_le hd₁ ?_
    have hyear := h.year_lt
    rw [Date.year_eq] at hyear ⊢
    exact (Nat.div_le_div_right hle).trans_lt hyear

end ExportSys

/-- A path ends in the name that was joined to it. -/
theorem pathName_joinPath {dir name : String} (h : '/' ∉ name.toList) :
    pathName (joinPath dir name) = name := by
  have hrev : (joinPath dir name).toList.reverse =
      name.toList.reverse ++ '/' :: dir.toList.reverse := by
    simp [joinPath]
  have hne : ∀ c ∈ name.toList.reverse, (c != '/') = true := fun c hc ↦
    bne_iff_ne.2 fun heq ↦ h (heq ▸ List.mem_reverse.1 hc)
  rw [pathName, hrev, List.takeWhile_append_of_pos hne, List.takeWhile_cons_of_neg (by decide),
    List.append_nil, List.reverse_reverse, String.ofList_toList]

/-- A joined path stays within the directory. -/
theorem staysWithin_joinPath (dir name : String) : staysWithin dir (joinPath dir name) = true := by
  have hpre : (dir ++ "/").toList <+: (joinPath dir name).toList := by
    rw [joinPath, String.toList_append (s := dir ++ "/")]
    exact List.prefix_append _ _
  rw [staysWithin, List.isPrefixOf_iff_prefix.2 hpre, Bool.true_or]

/-- What the endpoints answer when the last export that was finished is of a date. -/
def servedExport (path : String) : Option Date → Except ApiError ServedFile
  | none => .error ⟨404, "NOT_FOUND", "No export file available yet"⟩
  | some d => .ok ⟨joinPath path (exportName d), exportName d⟩

/-- **The newest export is served.** In every run in which no export is killed while it compresses,
and old ones are deleted within a week, at every moment outside of compressing both endpoints answer
with the last export that was finished, and it is whole and there; or with 404 when there is
none. -/
theorem exportHandler_of_run {db : SyncDB} {es : List ExportEvent} {sys : ExportSys}
    (h : Run ExportSys.step ExportSys.Orderly (ExportSys.init db) es sys)
    (hcompressing : ¬sys.Compressing) (path : String) (order : Arrangement String) :
    Go.exportHandler (sys.dir path order) = servedExport path (sys.latest.map Prod.fst) ∧
      Python.exportHandler (sys.dir path order) = servedExport path (sys.latest.map Prod.fst) ∧
      ∀ d c, sys.latest = some (d, c) → ∃ file, sys.files.lookup (exportName d) = some file ∧
        file.content = c ∧ file.whole = true := by
  have hinv : sys.Inv := h.inv (ExportSys.inv_init db) fun hinv hord hs ↦ hinv.step hord hs
  have hgo := hinv.lastName_eq hcompressing path order
    (fun e ↦ !e.2 && ".sql.gz".toList.isSuffixOf e.1.toList &&
      safeExportFilename .strict e.1)
    (fun d ↦ by
      have hglob := globExports_exportName d
      simp only [globExports, Bool.and_eq_true] at hglob
      simp only [hglob.1.2, safeExportFilename_exportName, Bool.not_false, Bool.and_true])
    fun name hname ↦ by simp only [not_suffix_of_mem_tmpNames hname, Bool.and_false, Bool.false_and]
  have hpython := hinv.lastName_eq hcompressing path order
    (fun e ↦ globExports e.1 && safeExportFilename .beforeNewline e.1)
    (fun d ↦ by rw [globExports_exportName, safeExportFilename_exportName]; rfl)
    fun name hname ↦ by rw [not_globExports_of_mem_tmpNames hname, Bool.false_and]
  refine ⟨?_, ?_, fun d c hd ↦ (hinv.latest d c hd).2.resolve_left fun hc ↦ hcompressing hc.1⟩
  · rw [Go.exportHandler, hgo]
    cases sys.latest with
    | none => rfl
    | some x =>
      show (if staysWithin path (joinPath path (exportName x.1)) then _ else _ : Except _ _) = _
      rw [if_pos (staysWithin_joinPath path _)]
      rfl
  · have hname (d : Date) : '/' ∉ (exportName d).toList := fun hmem ↦
      absurd (isFilenameChar_of_mem_exportName hmem) (by decide)
    have hlinks : (sys.dir path order).evalSymlinks = some := rfl
    have habs : (sys.dir path order).absPath = path := rfl
    simp only [Python.exportHandler, hlinks, habs, hpython]
    cases sys.latest with
    | none => rfl
    | some x =>
      show (if staysWithin path (joinPath path (exportName x.1)) then _ else _ : Except _ _) = _
      rw [if_pos (staysWithin_joinPath path _)]
      show Except.ok (ServedFile.mk (joinPath path (exportName x.1))
        (pathName (joinPath path (exportName x.1)))) = _
      rw [pathName_joinPath (hname x.1)]
      rfl

/-- A run of the script, and one on the next day that is killed before it compresses. -/
def killedRun : List ExportEvent :=
  .start :: List.replicate exportScript.length .command ++ .pass daySeconds ::
    .start :: List.replicate 5 .command ++ [.kill]

theorem exec_killedRun : (exec ExportSys.step ExportSys.Orderly
    (ExportSys.init ⟨⟨∅, ∅, ∅, ∅, ∅⟩, ∅⟩) killedRun).isSome := by
  decide +kernel

/-- The export of the first day is served. -/
theorem exportHandler_killedRun :
    Go.exportHandler ((Option.get _ exec_killedRun).dir "/exports" (Arrangement.ascending String)) =
        servedExport "/exports" ((Option.get _ exec_killedRun).latest.map Prod.fst) ∧
      Python.exportHandler
          ((Option.get _ exec_killedRun).dir "/exports" (Arrangement.ascending String)) =
        servedExport "/exports" ((Option.get _ exec_killedRun).latest.map Prod.fst) ∧
      ∀ d c, (Option.get _ exec_killedRun).latest = some (d, c) →
        ∃ file, (Option.get _ exec_killedRun).files.lookup (exportName d) = some file ∧
          file.content = c ∧ file.whole = true :=
  exportHandler_of_run (run_of_exec (Option.some_get exec_killedRun).symm) (by decide +kernel)
    "/exports" (Arrangement.ascending String)

end RealTube
