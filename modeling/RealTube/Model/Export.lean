import RealTube.Model.Handlers
import RealTube.Model.SyncService
import RealTube.Text.Calendar

/-!
# The database export

`scripts/db-export.sh`, which `scripts/db-exporter-entrypoint.sh` runs once a day in a container of
its own, writes a dump without private columns to a directory, and the endpoints of
`handler/export.go` and `routers/export.py` serve the newest file of it. They meet in the directory
only: what is newest is read off the names, which hold the date.

The script is a list of commands, each a step of its own, and may be killed between any two. Under
`set -e` a command that fails ends it as well; but the exit status of a pipeline is that of `sed`,
so a `psql` that fails writes no rows and the script goes on.
-/

namespace RealTube

/-! ### Dumps -/

/-- A row of `users` as it is exported, where `is_shadowbanned` is always `false`. -/
structure ExportedUser where
  trustScore : ℚ
  accuracyRate : ℚ
  totalVotes : ℤ
  accurateVotes : ℤ
  firstSeen : Time
  lastActive : Time
  isVIP : Bool
  deriving DecidableEq

/-- A row of `votes` as it is exported, where `ip_hash` is always `NULL`. -/
structure ExportedVote where
  category : Category
  trustWeight : ℚ
  createdAt : Time
  userAgent : Option String
  deriving DecidableEq

/-- `SELECT …, false AS is_shadowbanned, … FROM users`. -/
def User.exported (row : User) : ExportedUser where
  trustScore := row.trustScore
  accuracyRate := row.accuracyRate
  totalVotes := row.totalVotes
  accurateVotes := row.accurateVotes
  firstSeen := row.firstSeen
  lastActive := row.lastActive
  isVIP := row.isVIP

/-- `SELECT …, NULL AS ip_hash, … FROM votes`. -/
def Vote.exported (row : Vote) : ExportedVote where
  category := row.category
  trustWeight := row.trustWeight
  createdAt := row.createdAt
  userAgent := row.userAgent

/-- A piece of a dump: the schema, or rows of a table by their key. -/
inductive Piece where
  | schema
  | videos (rows : VideoID → Option Video)
  | videoCategories (rows : VideoID × Category → Option VideoCategory)
  | channels (rows : ChannelID → Option Channel)
  | syncCache (rows : ℕ → Option SyncCacheRow)
  /-- The migrations create this table, and nothing writes to it: it has no rows. -/
  | fullCacheBlob
  | users (rows : UserID → Option ExportedUser)
  | votes (rows : VideoID × UserID → Option ExportedVote)

/-- The tables that are dumped as they are. -/
inductive DumpedTable where
  | videos
  | videoCategories
  | channels
  | syncCache
  | fullCacheBlob
  deriving DecidableEq

/-- `pg_dump --data-only --table`. -/
def DumpedTable.dump (db : SyncDB) : DumpedTable → Piece
  | videos => .videos db.videos.lookup
  | videoCategories => .videoCategories db.videoCategories.lookup
  | channels => .channels db.channels.lookup
  | syncCache => .syncCache db.syncCache.lookup
  | fullCacheBlob => .fullCacheBlob

/-- `COPY (SELECT … FROM users) TO STDOUT`. -/
def copyUsers (db : SyncDB) : Piece := .users fun u ↦ (db.users.lookup u).map User.exported

/-- `COPY (SELECT … FROM votes) TO STDOUT`. -/
def copyVotes (db : SyncDB) : Piece := .votes fun k ↦ (db.votes.lookup k).map Vote.exported

/-! ### Names -/

/-- `realtube-${DATE}.sql.gz`. -/
def exportName (d : Date) : String :=
  String.ofList ("realtube-".toList ++ d.compact ++ ".sql.gz".toList)

/-- `$TMPFILE`. -/
def tmpFile : String := ".realtube-export-tmp.sql"

/-- `$TMPFILE.users`. -/
def tmpUsers : String := ".realtube-export-tmp.sql.users"

/-- `$TMPFILE.votes`. -/
def tmpVotes : String := ".realtube-export-tmp.sql.votes"

/-- The pattern `realtube-*.sql.gz`, of `find -name` and of `glob`. -/
def globExports (name : String) : Bool :=
  "realtube-".toList.isPrefixOf name.toList && ".sql.gz".toList.isSuffixOf name.toList &&
    "realtube-.sql.gz".length ≤ name.length

/-- The characters of the class `[a-zA-Z0-9_.-]`. -/
def isFilenameChar (c : Char) : Bool := c.isAlphanum || c == '_' || c == '.' || c == '-'

/-- The regular expression `^[a-zA-Z0-9_.-]+\.sql\.gz$`. -/
def safeExportFilename (anchor : Text.EndAnchor) (name : String) : Bool :=
  (List.range name.length).any fun n ↦
    (name.toList.take (n + 1)).all isFilenameChar &&
      ".sql.gz".toList.isPrefixOf (name.toList.drop (n + 1)) &&
      anchor.accepts ((name.toList.drop (n + 1 + 7)).map some)

/-! ### The script -/

/-- A file of the directory: a dump, or a part of one. A file that is being compressed is not
whole. -/
structure ExportFile where
  mtime : ℕ
  content : List Piece
  whole : Bool

/-- The commands of the script. -/
inductive ScriptCommand where
  /-- `pg_dump --schema-only … > "$TMPFILE"` -/
  | dumpSchema
  /-- `pg_dump --data-only … >> "$TMPFILE"` -/
  | dumpTable (table : DumpedTable)
  /-- `psql -Atc "COPY (SELECT … FROM users) …" | sed 's/^//' >> "$TMPFILE.users"` -/
  | selectUsers
  /-- `cat "$TMPFILE.users" >> "$TMPFILE"`, with the lines around it -/
  | catUsers
  /-- `rm -f "$TMPFILE.users"` -/
  | rmUsers
  /-- `psql -Atc "COPY (SELECT … FROM votes) …" | sed 's/^//' >> "$TMPFILE.votes"` -/
  | selectVotes
  /-- `cat "$TMPFILE.votes" >> "$TMPFILE"`, with the lines around it -/
  | catVotes
  /-- `rm -f "$TMPFILE.votes"` -/
  | rmVotes
  /-- `gzip -c "$TMPFILE" > "$OUTFILE"`: the shell has opened `$OUTFILE` -/
  | openOutfile
  /-- `gzip -c "$TMPFILE" > "$OUTFILE"`: it is written -/
  | gzip
  /-- `rm -f "$TMPFILE"` -/
  | rmTmp
  /-- `find "$EXPORT_DIR" -name "realtube-*.sql.gz" -mtime +7 -delete` -/
  | deleteOld
  deriving DecidableEq

open ScriptCommand

/-- `db-export.sh`. -/
def exportScript : List ScriptCommand :=
  [dumpSchema, dumpTable .videos, dumpTable .videoCategories, dumpTable .channels,
    dumpTable .syncCache, dumpTable .fullCacheBlob, selectUsers, catUsers, rmUsers, selectVotes,
    catVotes, rmVotes, openOutfile, gzip, rmTmp, deleteOld]

/-- The seconds of a day. -/
def daySeconds : ℕ := 86400

/-- `-mtime +7`: more than seven whole days old. -/
def olderThanSeven (now : ℕ) (file : ExportFile) : Bool := 7 < (now - file.mtime) / daySeconds

/-- The clock in seconds, the database, the directory, and the run of the script: what is left of
it, and its `$DATE`. `latest` is what the last finished compression has written, and under which
date. -/
structure ExportSys where
  now : ℕ
  db : SyncDB
  files : Table String ExportFile
  todo : List ScriptCommand
  date : Date
  latest : Option (Date × List Piece)

/-- What can happen. `psqlFails` is a failing `psql`; `kill` is any other end of the script before
its own. -/
inductive ExportEvent where
  | pass (t : ℕ)
  | commit (db : SyncDB)
  | start
  | command
  | psqlFails
  | kill

namespace ExportSys

/-- An empty directory. -/
def init (db : SyncDB) : ExportSys := ⟨0, db, ∅, [], Date.epoch, none⟩

/-- `date +%Y%m%d`. -/
def today (sys : ExportSys) : Date := Date.ofDay (sys.now / daySeconds)

/-- The pieces of a file; none when it is not there. -/
def content (sys : ExportSys) (name : String) : List Piece :=
  (sys.files.lookup name).elim [] ExportFile.content

/-- Append to a file, which is created if it is not there. -/
def append (sys : ExportSys) (name : String) (pieces : List Piece) : ExportSys :=
  { sys with files := sys.files.insert name ⟨sys.now, sys.content name ++ pieces, true⟩ }

/-- Remove a file. -/
def rm (sys : ExportSys) (name : String) : ExportSys := { sys with files := sys.files.erase name }

/-- The system after a command. -/
def execute (sys : ExportSys) : ScriptCommand → ExportSys
  | dumpSchema => { sys with files := sys.files.insert tmpFile ⟨sys.now, [.schema], true⟩ }
  | dumpTable table => sys.append tmpFile [table.dump sys.db]
  | selectUsers => sys.append tmpUsers [copyUsers sys.db]
  | catUsers => sys.append tmpFile (sys.content tmpUsers)
  | rmUsers => sys.rm tmpUsers
  | selectVotes => sys.append tmpVotes [copyVotes sys.db]
  | catVotes => sys.append tmpFile (sys.content tmpVotes)
  | rmVotes => sys.rm tmpVotes
  | openOutfile => { sys with
      files := sys.files.insert (exportName sys.date) ⟨sys.now, [], false⟩ }
  | gzip => { sys with
      files := sys.files.insert (exportName sys.date) ⟨sys.now, sys.content tmpFile, true⟩
      latest := some (sys.date, sys.content tmpFile) }
  | rmTmp => sys.rm tmpFile
  | deleteOld => { sys with
      files := sys.files.filter fun name file ↦ ¬(globExports name ∧ olderThanSeven sys.now file) }

/-- The file to which a failing `psql` appends nothing. -/
def psqlTarget : ScriptCommand → Option String
  | selectUsers => some tmpUsers
  | selectVotes => some tmpVotes
  | _ => none

/-- The system after an event; `none` when the event is not possible. -/
def step (sys : ExportSys) : ExportEvent → Option ExportSys
  | .pass t => some { sys with now := sys.now + t }
  | .commit db => some { sys with db }
  | .start =>
    match sys.todo with
    | [] => some { sys with todo := exportScript, date := sys.today }
    | _ :: _ => none
  | .command =>
    match sys.todo with
    | [] => none
    | c :: rest => some { sys.execute c with todo := rest }
  | .psqlFails =>
    match sys.todo with
    | [] => none
    | c :: rest => (psqlTarget c).map fun name ↦ { sys.append name [] with todo := rest }
  | .kill => some { sys with todo := [] }

end ExportSys

/-! ### The endpoints -/

/-- The directory as an endpoint finds it: its entries, which of them are directories, and where a
path leads when symbolic links are followed; `none` when that fails. -/
structure ExportDir where
  entries : List (String × Bool)
  path : String
  absPath : String
  evalSymlinks : String → Option String

/-- The greatest of the names, which is the last when they are sorted. -/
def lastName (names : List String) : Option String := (names.insertionSort (· ≤ ·)).getLast?

/-- `filepath.Join` of a directory and a name without separators. -/
def joinPath (dir name : String) : String := dir ++ "/" ++ name

/-- The check that a path stays within a directory: `strings.HasPrefix` with a separator or
equality, and `is_relative_to`. -/
def staysWithin (dir path : String) : Bool :=
  (dir ++ "/").toList.isPrefixOf path.toList || path == dir

/-- What an endpoint serves: a file, under the name that the client is told. -/
structure ServedFile where
  path : String
  filename : String
  deriving DecidableEq

/-- `Export`. -/
def Go.exportHandler (dir : ExportDir) : Except ApiError ServedFile :=
  match lastName ((dir.entries.filter fun e ↦ !e.2 &&
      ".sql.gz".toList.isSuffixOf e.1.toList && safeExportFilename .strict e.1).map Prod.fst) with
  | none => .error ⟨404, "NOT_FOUND", "No export file available yet"⟩
  | some latest =>
    match dir.evalSymlinks (joinPath dir.path latest) with
    | none => .error ⟨404, "NOT_FOUND", "Export file not accessible"⟩
    | some resolvedPath =>
      if staysWithin dir.absPath resolvedPath then .ok ⟨resolvedPath, latest⟩
      else .error ⟨403, "FORBIDDEN", "Access denied"⟩

/-- `Path.name`: what follows the last separator. -/
def pathName (path : String) : String :=
  String.ofList (path.toList.reverse.takeWhile (· != '/')).reverse

/-- `export_database`. The directory is resolved first, and its entries are found under the resolved
path. -/
def Python.exportHandler (dir : ExportDir) : Except ApiError ServedFile :=
  match dir.evalSymlinks dir.absPath with
  | none => .error ⟨500, "INTERNAL_ERROR", "Export directory not found"⟩
  | some exportPath =>
    match lastName ((dir.entries.filter fun e ↦
        globExports e.1 && safeExportFilename .beforeNewline e.1).map Prod.fst) with
    | none => .error ⟨404, "NOT_FOUND", "No export file available yet"⟩
    | some name =>
      let latest := (dir.evalSymlinks (joinPath exportPath name)).getD (joinPath exportPath name)
      if staysWithin exportPath latest then .ok ⟨latest, pathName latest⟩
      else .error ⟨403, "FORBIDDEN", "Access denied"⟩

end RealTube
