/-
The directory of the migrations (`migration.cpp`).

* `DirectoryWalk`: what the file system answers, which may throw;
* `parseMigration`: the name of a file, and what it says;
* `discoverMigrations`: the migrations of a directory, in the order of their versions.
-/
import CnsServer.Store.PostgresStore

namespace CnsServer

/-- An entry of the directory; whether it is a regular file is asked of the file system. -/
structure FileEntry where
  filename : String
  isRegularFile : Except String Bool

/-- The directory, as it is walked: it may throw before the walk or after some entries. -/
structure DirectoryWalk where
  isDirectory : Except String Bool
  entries : List FileEntry
  failure : Option String

/-- `filename.ends_with(".sql")`. -/
def EndsWithSql (filename : String) : Prop := ['.', 's', 'q', 'l'] <:+ filename.toList

instance (filename : String) : Decidable (EndsWithSql filename) :=
  inferInstanceAs (Decidable (_ <:+ _))

/-- `std::isdigit`. -/
def isDigit (c : Char) : Bool := decide ('0' ≤ c) && decide (c ≤ '9')

def digitValue (c : Char) : ℤ := (c.toNat : ℤ) - 48

/-- The migration whose name has been split. -/
def namedMigration (entry : FileEntry) (version : ℤ) (name : List Char) :
    Except String (Except String Migration) :=
  if version = 0 then .ok (.error ("迁移版本必须大于零：" ++ entry.filename))
  else if name = [] then .ok (.error ("迁移名称不能为空：" ++ entry.filename))
  else
    match entry.isRegularFile with
    | .error what => .error what
    | .ok false => .ok (.error ("迁移 SQL 路径不是普通文件：" ++ entry.filename))
    | .ok true => .ok (.ok ⟨version, String.ofList name⟩)

/-- `ParseMigration`; the outer error is thrown. -/
def parseMigration (entry : FileEntry) : Except String (Except String Migration) :=
  match entry.filename.toList with
  | first :: second :: third :: '_' :: rest =>
      if entry.filename.utf8ByteSize < 8 ∨ ¬EndsWithSql entry.filename ∨
          (isDigit first && isDigit second && isDigit third) = false then
        .ok (.error ("迁移 SQL 文件名格式非法：" ++ entry.filename))
      else
        namedMigration entry
          (digitValue first * 100 + digitValue second * 10 + digitValue third)
          (rest.take (rest.length - 4))
  | _ => .ok (.error ("迁移 SQL 文件名格式非法：" ++ entry.filename))

/-- The walk over the directory, with what it has found. -/
def collectMigrations (failure : Option String) :
    List FileEntry → List Migration → Except String (Except String (List Migration))
  | [], found =>
      match failure with
      | some what => .error what
      | none => .ok (.ok found)
  | entry :: entries, found =>
      if EndsWithSql entry.filename then
        match parseMigration entry with
        | .error what => .error what
        | .ok (.error error) => .ok (.error error)
        | .ok (.ok migration) => collectMigrations failure entries (found ++ [migration])
      else collectMigrations failure entries found

/-- The check of the versions, from the given index on. -/
def checkVersions : ℕ → Option ℤ → List Migration → Except String Unit
  | _, _, [] => .ok ()
  | index, previous, migration :: rest =>
      if migration.version ≠ index + 1 then
        if previous = some migration.version then
          .error ("迁移版本重复：" ++ threeDigits migration.version)
        else
          .error ("迁移版本不连续，期望 " ++ threeDigits (index + 1) ++ "，实际 " ++
            threeDigits migration.version)
      else checkVersions (index + 1) (some migration.version) rest

/-- What follows the walk. -/
def orderMigrations (found : List Migration) : Except String (List Migration) :=
  if found = [] then .error "迁移目录中缺少 001 迁移文件"
  else
    let migrations := found.mergeSort fun migration other => migration.version ≤ other.version
    match checkVersions 0 none migrations with
    | .error error => .error error
    | .ok () => .ok migrations

/-- `DiscoverMigrations`. -/
def discoverMigrations (directory : String) (walk : DirectoryWalk) :
    Except String (List Migration) :=
  match walk.isDirectory with
  | .error what => .error ("读取迁移目录失败：" ++ what)
  | .ok false => .error ("迁移目录不存在或不是目录：" ++ directory)
  | .ok true =>
      match collectMigrations walk.failure walk.entries [] with
      | .error what => .error ("读取迁移目录失败：" ++ what)
      | .ok (.error error) => .error error
      | .ok (.ok found) => orderMigrations found

end CnsServer
