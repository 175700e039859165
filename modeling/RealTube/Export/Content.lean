import RealTube.Export.Latest

/-!
# What an export contains

Two results on the files of the directory, in any run of the script.

The private columns leave no trace: when the databases of two runs differ in `is_shadowbanned` and
`ip_hash` only, their directories are the same, temporary files and half-written exports included
(`files_of_samePublic`).

An export that was finished holds each of its pieces once, and in order (`pieces_of_latest`), each
read from a state the database was in. This is not so after a run that was killed while it had a
temporary file of rows: the next run appends to it. The proof runs the script on the kinds of pieces
instead of the pieces (`Kinds.execute`), and compares.
-/

open Steps

namespace RealTube

/-! ### Private columns -/

/-- The databases differ in private columns only. -/
structure SyncDB.SamePublic (db db' : SyncDB) : Prop where
  videos : db.videos = db'.videos
  videoCategories : db.videoCategories = db'.videoCategories
  channels : db.channels = db'.channels
  syncCache : db.syncCache = db'.syncCache
  users : ∀ u, (db.users.lookup u).map User.exported = (db'.users.lookup u).map User.exported
  votes : ∀ k, (db.votes.lookup k).map Vote.exported = (db'.votes.lookup k).map Vote.exported

theorem SyncDB.SamePublic.refl (db : SyncDB) : db.SamePublic db :=
  ⟨rfl, rfl, rfl, rfl, fun _ ↦ rfl, fun _ ↦ rfl⟩

theorem SyncDB.SamePublic.dump {db db' : SyncDB} (h : db.SamePublic db') (table : DumpedTable) :
    table.dump db = table.dump db' := by
  cases table with
  | videos => exact congrArg (Piece.videos ·.lookup) h.videos
  | videoCategories => exact congrArg (Piece.videoCategories ·.lookup) h.videoCategories
  | channels => exact congrArg (Piece.channels ·.lookup) h.channels
  | syncCache => exact congrArg (Piece.syncCache ·.lookup) h.syncCache
  | fullCacheBlob => rfl

theorem SyncDB.SamePublic.copyUsers {db db' : SyncDB} (h : db.SamePublic db') :
    copyUsers db = RealTube.copyUsers db' := congrArg Piece.users (funext h.users)

theorem SyncDB.SamePublic.copyVotes {db db' : SyncDB} (h : db.SamePublic db') :
    copyVotes db = RealTube.copyVotes db' := congrArg Piece.votes (funext h.votes)

/-- The events are the same, but for private columns of the databases that are committed. -/
inductive ExportEvent.SamePublic : ExportEvent → ExportEvent → Prop
  | refl (e : ExportEvent) : SamePublic e e
  | commit {db db' : SyncDB} (h : db.SamePublic db') : SamePublic (.commit db) (.commit db')

namespace ExportSys

/-- The systems differ in private columns of the database only. -/
def SamePublic (sys sys' : ExportSys) : Prop :=
  ∃ db, sys.db.SamePublic db ∧ sys' = { sys with db }

variable {sys sys' : ExportSys}

/-- A command makes the same of them. -/
theorem SamePublic.execute (h : sys.SamePublic sys') (c : ScriptCommand) :
    (sys.execute c).SamePublic (sys'.execute c) := by
  obtain ⟨db, hdb, rfl⟩ := h
  refine ⟨db, by cases c <;> exact hdb, ?_⟩
  cases c with
  | dumpTable table =>
    show append _ tmpFile [table.dump db] = _
    rw [← hdb.dump table]
    rfl
  | selectUsers =>
    show append _ tmpUsers [copyUsers db] = _
    rw [← hdb.copyUsers]
    rfl
  | selectVotes =>
    show append _ tmpVotes [copyVotes db] = _
    rw [← hdb.copyVotes]
    rfl
  | _ => rfl

/-- **A step of one is matched by one of the other.** -/
theorem SamePublic.step {e e' : ExportEvent} {next : ExportSys} (h : sys.SamePublic sys')
    (he : e.SamePublic e') (hs : sys.step e = some next) :
    ∃ next', sys'.step e' = some next' ∧ next.SamePublic next' := by
  obtain ⟨db, hdb, rfl⟩ := h
  cases he with
  | commit hcommit =>
    obtain rfl := Option.some.inj hs
    exact ⟨_, rfl, _, hcommit, rfl⟩
  | refl =>
    match e with
    | .pass _ | .kill => exact Option.some.inj hs ▸ ⟨_, rfl, db, hdb, rfl⟩
    | .commit db' => exact Option.some.inj hs ▸ ⟨_, rfl, db', .refl db', rfl⟩
    | .start =>
      simp only [ExportSys.step] at hs ⊢
      split at hs
      · exact Option.some.inj hs ▸ ⟨_, rfl, db, hdb, rfl⟩
      · cases hs
    | .command =>
      simp only [ExportSys.step] at hs ⊢
      split at hs
      · cases hs
      · next c rest _ =>
        obtain rfl := Option.some.inj hs
        obtain ⟨db', hdb', heq⟩ := SamePublic.execute ⟨db, hdb, rfl⟩ c
        exact ⟨_, rfl, db', hdb', by rw [heq]⟩
    | .psqlFails =>
      simp only [ExportSys.step] at hs ⊢
      split at hs
      · cases hs
      · next c rest _ =>
        obtain ⟨name, hname, rfl⟩ := Option.map_eq_some_iff.1 hs
        rw [hname]
        exact ⟨_, rfl, db, hdb, rfl⟩

end ExportSys

/-- A database of one user, shadowbanned or not. -/
def dbOf (isShadowbanned : Bool) : SyncDB where
  users := .insert ∅ "u" { User.new 0 with isShadowbanned }
  videos := ∅
  videoCategories := ∅
  votes := ∅
  channels := ∅
  syncCache := ∅

theorem samePublic_dbOf : (dbOf true).SamePublic (dbOf false) where
  videos := rfl
  videoCategories := rfl
  channels := rfl
  syncCache := rfl
  users u := by
    show ((Table.insert ∅ "u" _).lookup u).map _ = ((Table.insert ∅ "u" _).lookup u).map _
    rw [Table.lookup_insert, Table.lookup_insert]
    split_ifs <;> rfl
  votes _ := rfl

theorem exec_dbOf : (exec ExportSys.step Any (ExportSys.init (dbOf true)) killedRun).isSome := by
  decide +kernel

/-- What a piece is of. -/
inductive PieceKind where
  | schema
  | table (table : DumpedTable)
  | users
  | votes
  deriving DecidableEq

/-- The piece is of this kind, read from a state of the database that `held` holds of. -/
def Piece.IsOf (held : SyncDB → Prop) : PieceKind → Piece → Prop
  | .schema, p => p = .schema
  | .table table, p => ∃ db, held db ∧ p = table.dump db
  | .users, p => ∃ db, held db ∧ p = copyUsers db
  | .votes, p => ∃ db, held db ∧ p = copyVotes db

theorem Piece.IsOf.mono {held held' : SyncDB → Prop} (hheld : ∀ db, held db → held' db)
    {kind : PieceKind} {p : Piece} (h : p.IsOf held kind) : p.IsOf held' kind := by
  cases kind with
  | schema => exact h
  | table | users | votes => exact h.imp fun db hdb ↦ ⟨hheld db hdb.1, hdb.2⟩

/-- The pieces are of these kinds, one after the other. -/
def AreOf (held : SyncDB → Prop) (kinds : List PieceKind) (pieces : List Piece) : Prop :=
  List.Forall₂ (fun kind p ↦ p.IsOf held kind) kinds pieces

theorem AreOf.mono {held held' : SyncDB → Prop} (hheld : ∀ db, held db → held' db)
    {kinds : List PieceKind} {pieces : List Piece} (h : AreOf held kinds pieces) :
    AreOf held' kinds pieces := h.imp fun _ _ hp ↦ hp.mono hheld

theorem AreOf.append {held : SyncDB → Prop} {kinds kinds' : List PieceKind}
    {pieces pieces' : List Piece} (h : AreOf held kinds pieces) (h' : AreOf held kinds' pieces') :
    AreOf held (kinds ++ kinds') (pieces ++ pieces') := List.rel_append h h'

/-- What the temporary files hold, as kinds of pieces. -/
structure Kinds where
  file : List PieceKind
  users : List PieceKind
  votes : List PieceKind
  deriving DecidableEq

open ScriptCommand in
/-- A command of the script, on kinds of pieces. -/
def Kinds.execute (k : Kinds) : ScriptCommand → Kinds
  | dumpSchema => { k with file := [.schema] }
  | dumpTable table => { k with file := k.file ++ [.table table] }
  | selectUsers => { k with users := k.users ++ [.users] }
  | catUsers => { k with file := k.file ++ k.users }
  | rmUsers => { k with users := [] }
  | selectVotes => { k with votes := k.votes ++ [.votes] }
  | catVotes => { k with file := k.file ++ k.votes }
  | rmVotes => { k with votes := [] }
  | rmTmp => { k with file := [] }
  | openOutfile | gzip | deleteOld => k

/-- The kinds in a finished export. -/
def exportKinds : List PieceKind :=
  [.schema, .table .videos, .table .videoCategories, .table .channels, .table .syncCache,
    .table .fullCacheBlob, .users, .votes]

/-- What the temporary files hold when this much of the script is left. -/
def kindsAt (todo : List ScriptCommand) : Kinds :=
  (exportScript.take (exportScript.length - todo.length)).foldl Kinds.execute ⟨[], [], []⟩

/-- A command makes the next of them. -/
theorem kindsAt_tail {c : ScriptCommand} {rest : List ScriptCommand}
    (h : c :: rest <:+ exportScript) :
    kindsAt rest = (kindsAt (c :: rest)).execute c := by
  have hall : ∀ todo ∈ exportScript.tails, ∀ c ∈ todo.head?,
      kindsAt todo.tail = (kindsAt todo).execute c := by decide
  exact hall _ ((List.mem_tails _ _).2 h) c rfl

/-- What is compressed is a whole export. -/
theorem kindsAt_gzip {rest : List ScriptCommand} (h : .gzip :: rest <:+ exportScript) :
    (kindsAt (.gzip :: rest)).file = exportKinds := by
  have hall : ∀ todo ∈ exportScript.tails, todo.head? = some .gzip →
      (kindsAt todo).file = exportKinds := by decide
  exact hall _ ((List.mem_tails _ _).2 h) rfl

namespace ExportSys

/-- No run is killed while it has a temporary file of rows, and `psql` does not fail. -/
def Tidy (sys : ExportSys) : ExportEvent → Prop
  | .kill => (kindsAt sys.todo).users = [] ∧ (kindsAt sys.todo).votes = []
  | .psqlFails => False
  | _ => True

instance (sys : ExportSys) (e : ExportEvent) : Decidable (Tidy sys e) :=
  match e with
  | .kill => inferInstanceAs (Decidable (_ ∧ _))
  | .psqlFails => .isFalse id
  | .pass _ | .commit _ | .start | .command => .isTrue trivial

theorem content_insert (sys : ExportSys) (name name' : String) (file : ExportFile) :
    content { sys with files := sys.files.insert name file } name' =
      if name' = name then file.content else sys.content name' := by
  rw [content, Table.lookup_insert]
  split_ifs <;> rfl

theorem content_append (sys : ExportSys) (name name' : String) (pieces : List Piece) :
    (sys.append name pieces).content name' =
      if name' = name then sys.content name ++ pieces else sys.content name' :=
  content_insert ..

theorem content_rm (sys : ExportSys) (name name' : String) :
    (sys.rm name).content name' = if name' = name then [] else sys.content name' := by
  rw [rm, content, Table.lookup_erase]
  split_ifs <;> rfl

/-- Old exports are no temporary files. -/
theorem content_deleteOld {name : String} (h : name ∈ tmpNames) (sys : ExportSys) :
    (sys.execute .deleteOld).content name = sys.content name := by
  show ((sys.files.filter _).lookup name).elim _ _ = _
  rw [Table.lookup_filter, content]
  cases sys.files.lookup name with
  | none => rfl
  | some file =>
    simp only [not_globExports_of_mem_tmpNames h]
    rfl

/-- Nor is one that is being written. -/
theorem content_insert_export {name : String} (h : name ∈ tmpNames) (sys : ExportSys)
    (file : ExportFile) :
    content { sys with files := sys.files.insert (exportName sys.date) file } name =
      sys.content name := by
  have hne : name ≠ exportName sys.date := fun heq ↦
    exportName_notMem_tmpNames sys.date (heq ▸ h)
  rw [content_insert, if_neg hne]

/-- The temporary files of rows are of these kinds. -/
structure RowsOf (held : SyncDB → Prop) (k : Kinds) (sys : ExportSys) : Prop where
  users : AreOf held k.users (sys.content tmpUsers)
  votes : AreOf held k.votes (sys.content tmpVotes)

variable {held : SyncDB → Prop} {k : Kinds}

/-- **A command, on pieces and on their kinds**: the files of rows. -/
theorem rowsOf_execute (h : RowsOf held k sys) (hheld : held sys.db) (c : ScriptCommand) :
    RowsOf held (k.execute c) (sys.execute c) := by
  have husers : tmpUsers ≠ tmpFile := by decide +kernel
  have hvotes : tmpVotes ≠ tmpFile := by decide +kernel
  have hne : tmpVotes ≠ tmpUsers := by decide +kernel
  have hmem : tmpUsers ∈ tmpNames ∧ tmpVotes ∈ tmpNames := by decide +kernel
  cases c with
  | dumpSchema =>
    exact ⟨by rw [execute, content_insert, if_neg husers]; exact h.users,
      by rw [execute, content_insert, if_neg hvotes]; exact h.votes⟩
  | dumpTable | catUsers | catVotes =>
    exact ⟨by rw [execute, content_append, if_neg husers]; exact h.users,
      by rw [execute, content_append, if_neg hvotes]; exact h.votes⟩
  | selectUsers =>
    refine ⟨?_, by rw [execute, content_append, if_neg hne]; exact h.votes⟩
    rw [execute, content_append, if_pos rfl]
    exact h.users.append (.cons ⟨sys.db, hheld, rfl⟩ .nil)
  | selectVotes =>
    refine ⟨by rw [execute, content_append, if_neg hne.symm]; exact h.users, ?_⟩
    rw [execute, content_append, if_pos rfl]
    exact h.votes.append (.cons ⟨sys.db, hheld, rfl⟩ .nil)
  | rmUsers =>
    exact ⟨by rw [execute, content_rm, if_pos rfl]; exact .nil,
      by rw [execute, content_rm, if_neg hne]; exact h.votes⟩
  | rmVotes =>
    exact ⟨by rw [execute, content_rm, if_neg hne.symm]; exact h.users,
      by rw [execute, content_rm, if_pos rfl]; exact .nil⟩
  | rmTmp =>
    exact ⟨by rw [execute, content_rm, if_neg husers]; exact h.users,
      by rw [execute, content_rm, if_neg hvotes]; exact h.votes⟩
  | openOutfile =>
    exact ⟨by rw [execute, content_insert_export hmem.1]; exact h.users,
      by rw [execute, content_insert_export hmem.2]; exact h.votes⟩
  | gzip =>
    refine ⟨?_, ?_⟩
    · show AreOf held k.users (content { sys with files := sys.files.insert _ _ } tmpUsers)
      rw [content_insert_export hmem.1]
      exact h.users
    · show AreOf held k.votes (content { sys with files := sys.files.insert _ _ } tmpVotes)
      rw [content_insert_export hmem.2]
      exact h.votes
  | deleteOld =>
    exact ⟨by rw [content_deleteOld hmem.1]; exact h.users,
      by rw [content_deleteOld hmem.2]; exact h.votes⟩

/-- **A command, on pieces and on their kinds**: the file that becomes the export. -/
theorem areOf_execute (h : RowsOf held k sys) (hheld : held sys.db) {c : ScriptCommand}
    (hfile : c ≠ .dumpSchema → AreOf held k.file (sys.content tmpFile)) :
    AreOf held (k.execute c).file ((sys.execute c).content tmpFile) := by
  have husers : tmpFile ≠ tmpUsers := by decide +kernel
  have hvotes : tmpFile ≠ tmpVotes := by decide +kernel
  have hmem : tmpFile ∈ tmpNames := by decide +kernel
  cases c with
  | dumpSchema =>
    rw [execute, content_insert, if_pos rfl]
    exact .cons rfl .nil
  | dumpTable table =>
    rw [execute, content_append, if_pos rfl]
    exact (hfile nofun).append (.cons ⟨sys.db, hheld, rfl⟩ .nil)
  | catUsers =>
    rw [execute, content_append, if_pos rfl]
    exact (hfile (by decide)).append h.users
  | catVotes =>
    rw [execute, content_append, if_pos rfl]
    exact (hfile (by decide)).append h.votes
  | selectUsers =>
    rw [execute, content_append, if_neg husers]
    exact hfile (by decide)
  | selectVotes =>
    rw [execute, content_append, if_neg hvotes]
    exact hfile (by decide)
  | rmUsers =>
    rw [execute, content_rm, if_neg husers]
    exact hfile (by decide)
  | rmVotes =>
    rw [execute, content_rm, if_neg hvotes]
    exact hfile (by decide)
  | rmTmp =>
    rw [execute, content_rm, if_pos rfl]
    exact .nil
  | openOutfile =>
    rw [execute, content_insert_export hmem]
    exact hfile (by decide)
  | gzip =>
    show AreOf held k.file (content { sys with files := sys.files.insert _ _ } tmpFile)
    rw [content_insert_export hmem]
    exact hfile (by decide)
  | deleteOld =>
    rw [content_deleteOld hmem]
    exact hfile (by decide)

/-- **The invariant**: the temporary files, and the last export that was finished, are made of the
pieces they should be made of. -/
structure Tidied (held : SyncDB → Prop) (sys : ExportSys) : Prop where
  db : held sys.db
  todo : sys.todo <:+ exportScript
  rows : RowsOf held (kindsAt sys.todo) sys
  file : sys.todo ≠ [] → sys.todo ≠ exportScript →
    AreOf held (kindsAt sys.todo).file (sys.content tmpFile)
  latest : ∀ d c, sys.latest = some (d, c) → AreOf held exportKinds c

theorem tidied_init {held : SyncDB → Prop} {db : SyncDB} (h : held db) : Tidied held (init db) where
  db := h
  todo := List.nil_suffix
  rows := ⟨.nil, .nil⟩
  file h := absurd rfl h
  latest _ _ h := nomatch h

theorem Tidied.mono {held held' : SyncDB → Prop} (hheld : ∀ db, held db → held' db)
    (h : Tidied held sys) : Tidied held' sys where
  db := hheld _ h.db
  todo := h.todo
  rows := ⟨h.rows.users.mono hheld, h.rows.votes.mono hheld⟩
  file h₁ h₂ := (h.file h₁ h₂).mono hheld
  latest d c hd := (h.latest d c hd).mono hheld

/-- **The next command.** -/
theorem Tidied.command {held : SyncDB → Prop} (h : Tidied held sys) {c : ScriptCommand}
    {rest : List ScriptCommand} (htodo : sys.todo = c :: rest) :
    Tidied held { sys.execute c with todo := rest } := by
  have hsuffix : c :: rest <:+ exportScript := htodo ▸ h.todo
  have hrows : RowsOf held (kindsAt (c :: rest)) sys := htodo ▸ h.rows
  have hfile (hc : c ≠ .dumpSchema) :
      AreOf held (kindsAt (c :: rest)).file (sys.content tmpFile) := by
    refine htodo ▸ h.file (htodo ▸ List.cons_ne_nil c rest) fun heq ↦ hc ?_
    exact (List.cons.inj (htodo.symm.trans heq)).1
  have hkinds := kindsAt_tail hsuffix
  refine ⟨?_, suffix_of_cons hsuffix, ?_, fun _ _ ↦ ?_, fun d pieces hd ↦ ?_⟩
  · cases c <;> exact h.db
  · have hafter := hkinds ▸ rowsOf_execute hrows h.db c
    exact ⟨hafter.users, hafter.votes⟩
  · exact hkinds ▸ areOf_execute hrows h.db hfile
  · cases c with
    | gzip =>
      obtain ⟨-, rfl⟩ := Prod.mk.inj (Option.some.inj hd)
      exact kindsAt_gzip hsuffix ▸ hfile nofun
    | _ => exact h.latest d pieces hd

/-- **Every event keeps the invariant**, but for states the database was not in yet. -/
theorem Tidied.step {held : SyncDB → Prop} (h : Tidied held sys) {e : ExportEvent}
    (htidy : Tidy sys e) (hs : sys.step e = some sys') (hheld : held sys'.db) :
    Tidied held sys' := by
  match e with
  | .pass _ | .commit _ =>
    obtain rfl := Option.some.inj hs
    exact ⟨hheld, h.todo, ⟨h.rows.users, h.rows.votes⟩, h.file, h.latest⟩
  | .start =>
    simp only [ExportSys.step] at hs
    split at hs
    · next htodo =>
      refine Option.some.inj hs ▸ ⟨h.db, List.suffix_rfl, ?_, fun _ hne ↦ absurd rfl hne, h.latest⟩
      have hrows := h.rows
      rw [htodo] at hrows
      exact ⟨hrows.users, hrows.votes⟩
    · cases hs
  | .command =>
    simp only [ExportSys.step] at hs
    split at hs
    · cases hs
    · next htodo => exact Option.some.inj hs ▸ h.command htodo
  | .psqlFails => exact htidy.elim
  | .kill =>
    refine Option.some.inj hs ▸ ⟨h.db, List.nil_suffix, ?_, fun hne ↦ absurd rfl hne, h.latest⟩
    have husers := h.rows.users
    have hvotes := h.rows.votes
    rw [htidy.1] at husers
    rw [htidy.2] at hvotes
    exact ⟨husers, hvotes⟩

end ExportSys

/-- The database was in this state at some moment of the run. -/
def Was (db₀ : SyncDB) (es : List ExportEvent) (db : SyncDB) : Prop :=
  ∃ es' sys, es' <+: es ∧ Run ExportSys.step Any (ExportSys.init db₀) es' sys ∧ sys.db = db

/-- **An export is whole.** In every run in which `psql` does not fail, and no run of the script is
killed while it has a temporary file of rows, the last export that was finished is the schema, the
five tables, the users and the votes, each once and in this order, and each read from a state the
database was in. -/
theorem pieces_of_latest {db : SyncDB} {es : List ExportEvent} {sys : ExportSys}
    (h : Run ExportSys.step ExportSys.Tidy (ExportSys.init db) es sys) {d : Date}
    {pieces : List Piece} (hlatest : sys.latest = some (d, pieces)) :
    AreOf (Was db es) exportKinds pieces := by
  suffices h : ExportSys.Tidied (Was db es) sys from h.latest d pieces hlatest
  clear hlatest
  induction h with
  | nil => exact ExportSys.tidied_init ⟨[], _, List.prefix_rfl, .nil, rfl⟩
  | snoc hrun he hs ih =>
    refine (ih.mono fun db' hwas ↦ ?_).step he hs
      ⟨_, _, List.prefix_rfl, (hrun.snoc he hs).any, rfl⟩
    obtain ⟨es', sys', hpre, hwas⟩ := hwas
    exact ⟨es', sys', hpre.trans (List.prefix_append _ _), hwas⟩

/-- A run that is killed before it compresses, and one that is not. -/
def retriedRun : List ExportEvent :=
  .start :: List.replicate 6 .command ++ .kill :: .start ::
    List.replicate exportScript.length .command

theorem exec_retriedRun : ((exec ExportSys.step ExportSys.Tidy (ExportSys.init (dbOf true))
    retriedRun).bind ExportSys.latest).isSome := by
  decide +kernel

/-- The second of them is whole. -/
theorem pieces_retriedRun :
    AreOf (Was (dbOf true) retriedRun) exportKinds (Option.get _ exec_retriedRun).2 := by
  obtain ⟨sys, hsys, hlatest⟩ := Option.bind_eq_some_iff.1 (Option.some_get exec_retriedRun).symm
  exact pieces_of_latest (run_of_exec hsys) hlatest

-- Killed one command later, it leaves a file of users, which the next run appends to.
example : (((exec ExportSys.step Any (ExportSys.init (dbOf true)) (.start ::
      List.replicate 7 .command ++ .kill :: .start ::
        List.replicate exportScript.length .command)).bind ExportSys.latest).map
    fun x ↦ x.2.length) = some (exportKinds.length + 1) := by
  decide +kernel

end RealTube
