import Mathlib.Data.List.Infix
import Mathlib.Data.List.Sort
import Mathlib.Data.String.Basic
import XpBuilder.Library.Dict
import XpBuilder.PythonText

/-! Backups on disk and their restoration. `kot5 backup` puts the dumps of every
backup into one directory, under names with the time in them; `bin/backup.sh` makes a
directory for each and lists the dumps in a manifest. `restore.sh` is given the dump of
the metadata and looks for the others beside it. Dumps are never empty. -/

namespace XpBuilder.Ops

/-- The time of a backup, as `date -u +%Y%m%d-%H%M%S` prints it. -/
structure Stamp where
  text : String
  length_eq : text.toList.length = 15
  plain : ∀ c ∈ text.toList, c.isDigit ∨ c = '-'
  deriving DecidableEq

theorem plain_of_all {text : String} (all : text.toList.all (fun c => c.isDigit || c = '-')) :
    ∀ c ∈ text.toList, c.isDigit ∨ c = '-' := by
  intro c mem
  have one := List.all_eq_true.mp all c mem
  simpa using one

/-- The dumps that may accompany the metadata. -/
inductive Part where
  | uploads | mariadb
  deriving DecidableEq, Repr

def Part.word : Part → String
  | .uploads => "uploads"
  | .mariadb => "mariadb"

inductive Tool where
  | kot5
  | backupSh (root project : String)
  deriving DecidableEq, Repr

/-- A backup, and whether there was an uploads database and a MariaDB to dump. -/
structure Backup where
  tool : Tool
  stamp : Stamp
  uploads : Bool
  mariadb : Bool
  deriving DecidableEq

def Backup.has (b : Backup) : Part → Bool
  | .uploads => b.uploads
  | .mariadb => b.mariadb

/-- What a file holds; a dump is known by the backup that made it. -/
inductive Content where
  | metadata (backup : Nat)
  | dump (backup : Nat) (part : Part)
  | manifest (uploads mariadb : Option String)
  deriving DecidableEq, Repr

/-- The files of each directory. -/
abbrev Disk := String → Dict String Content

def backupDir : String := "/var/www/kot-xpbuilder/backups"

def kot5Name (word : String) (stamp : Stamp) : String := "kot5-" ++ word ++ "-" ++ stamp.text ++ ".dump"

def Part.fileName (p : Part) : String := p.word ++ ".dump"

namespace Backup
variable (b : Backup)

def directory : String :=
  match b.tool with
  | .kot5 => backupDir
  | .backupSh root project => root ++ "/" ++ project ++ "/" ++ b.stamp.text

def metadataName : String :=
  match b.tool with
  | .kot5 => kot5Name "metadata" b.stamp
  | .backupSh _ _ => "superset-metadata.dump"

def partName (p : Part) : String :=
  match b.tool with
  | .kot5 => kot5Name p.word b.stamp
  | .backupSh _ _ => p.fileName

/-- The entry of the manifest for a part. -/
def listed (p : Part) : Option String := if b.has p then some p.fileName else none

/-- The files that the `k`-th backup writes. -/
def files (k : Nat) : List (String × Content) :=
  (b.metadataName, .metadata k) ::
    (([Part.uploads, Part.mariadb].filter b.has).map (fun p => (b.partName p, .dump k p)) ++
      match b.tool with
      | .kot5 => []
      | .backupSh _ _ => [("manifest.json", .manifest (b.listed .uploads) (b.listed .mariadb))])

/-- `backup` -/
def take (k : Nat) (disk : Disk) : Disk :=
  Function.update disk b.directory ((disk b.directory).setAll (b.files k))

end Backup

/-- The disk after a sequence of backups. -/
def afterBackups (history : List Backup) : Disk :=
  history.zipIdx.foldl (fun disk b => b.1.take b.2 disk) (fun _ => Dict.empty)

/-! ## `restore.sh` -/

/-- The shell pattern `*word*.dump`. -/
def matchesGlob (word name : String) : Bool :=
  name.toList.head? ≠ some '.' && ".dump".toList.isSuffixOf name.toList &&
    decide (word.toList <:+: name.toList.take (name.toList.length - 5))

/-- The names that the pattern expands to, sorted. -/
def glob (files : Dict String Content) (word : String) : List String :=
  ((files.entries.map Prod.fst).filter (matchesGlob word)).insertionSort (· ≤ ·)

/-- What the manifest of the directory names for the part. -/
def manifestEntry (files : Dict String Content) (p : Part) : Option String :=
  match files.get "manifest.json" with
  | some (.manifest uploads mariadb) =>
    PythonText.truthy (match p with
      | .uploads => uploads
      | .mariadb => mariadb)
  | _ => none

/-- `uploads_dump` and `mariadb_dump` -/
def companion (files : Dict String Content) (p : Part) : Option String :=
  match (manifestEntry files p).filter (fun name => (files.get name).isSome) with
  | some name => some name
  | none => (glob files p.word).find? (fun name => (files.get name).isSome)

/-- The dump of the part that is loaded. -/
def loaded (files : Dict String Content) (p : Part) : Option Content :=
  (companion files p).bind files.get

/-- `restore.sh` on a dump in a directory: the uploads and the MariaDB that it loads. -/
def restore (files : Dict String Content) (backup : String) : Option (Option Content × Option Content) :=
  (files.get backup).map (fun _ => (loaded files .uploads, loaded files .mariadb))

end XpBuilder.Ops
