import Hybro.Library.OrderedMap
import Hybro.Library.PythonText

/-! # Stores of file content

`MemoryFileContentStore`, and `LocalFileContentStore` over a directory that nobody else
changes: the root holds the shard directories and these hold regular files, so an operation
of the file system fails only where the path is absent or there already.
-/

namespace Hybro.RoomFiles

open OrderedMap PythonText

abbrev Bytes := List UInt8

inductive StoreError
  | valueError
  | fileConflict
  | fileTooLarge
  | fileNotFound
  deriving DecidableEq

def isLowerHex (c : Char) : Bool :=
  ('0' ≤ c && c ≤ '9') || ('a' ≤ c && c ≤ 'f')

/-- The ids that `UUID` reads back as themselves. -/
def isFileId (fileId : String) : Bool :=
  fileId.toList.length = 32 && fileId.toList.all isLowerHex

def normalizeFileId (fileId : String) : Except StoreError String :=
  if isFileId fileId then return fileId else throw .valueError

/-- `content_type` is ignored. The text `temporary` is the random part of a name. -/
inductive Operation
  | write (fileId : String) (content : Bytes) (temporary : String)
  | read (fileId : String) (maxBytes : Int)
  | exists (fileId : String) (expectedSize : Option Int) (expectedSha256 : Option String)
  | delete (fileId : String)
  | list
  deriving DecidableEq

inductive Answer
  | written
  | content (content : Option Bytes)
  | found (found : Bool)
  | deleted (deleted : Bool)
  | ids (ids : List String)
  deriving DecidableEq

/-- The size and the digest that `exists` was given are those of the content. -/
def matchesExpected (sha256 : Bytes → String) (content : Bytes) (expectedSize : Option Int)
    (expectedSha256 : Option String) : Bool :=
  expectedSize.all (fun size => (content.length : Int) = size) &&
    expectedSha256.all (sha256 content = ·)

/-! ## In memory -/

abbrev Contents := List (String × Bytes)

def Contents.write (contents : Contents) (fileId : String) (content : Bytes) :
    Except StoreError Answer × Contents :=
  match normalizeFileId fileId with
  | .error error => (.error error, contents)
  | .ok normalized =>
      if (get contents normalized).isSome then (.error .fileConflict, contents)
      else (.ok .written, put contents normalized content)

def Contents.read (contents : Contents) (fileId : String) (maxBytes : Int) :
    Except StoreError Answer := do
  let normalized ← normalizeFileId fileId
  if maxBytes ≤ 0 then throw .valueError
  else
    match get contents normalized with
    | none => return .content none
    | some content =>
        if (content.length : Int) > maxBytes then throw .fileTooLarge
        else return .content (some content)

def Contents.exists (sha256 : Bytes → String) (contents : Contents) (fileId : String)
    (expectedSize : Option Int) (expectedSha256 : Option String) : Except StoreError Answer := do
  let normalized ← normalizeFileId fileId
  match get contents normalized with
  | none => return .found false
  | some content => return .found (matchesExpected sha256 content expectedSize expectedSha256)

def Contents.delete (contents : Contents) (fileId : String) :
    Except StoreError Answer × Contents :=
  match normalizeFileId fileId with
  | .error error => (.error error, contents)
  | .ok normalized =>
      (.ok (.deleted (get contents normalized).isSome), erase contents normalized)

/-- One operation on the store in memory. The store has no listing of its own: a listing
stands for the ids that it holds. -/
def Contents.apply (sha256 : Bytes → String) (contents : Contents) :
    Operation → Except StoreError Answer × Contents
  | .write fileId content _ => contents.write fileId content
  | .read fileId maxBytes => (contents.read fileId maxBytes, contents)
  | .exists fileId expectedSize expectedSha256 =>
      (contents.exists sha256 fileId expectedSize expectedSha256, contents)
  | .delete fileId => contents.delete fileId
  | .list => (.ok (.ids (contents.map (·.1))), contents)

/-! ## On disk -/

abbrev Directory := List (String × Bytes)

abbrev Disk := List (String × Directory)

/-- `normalized[:2]` -/
def shardOf (fileId : String) : String :=
  firstChars 2 fileId

/-- `_path`, as the shard and the name. -/
def pathOf (fileId : String) : Except StoreError (String × String) := do
  let normalized ← normalizeFileId fileId
  return (shardOf normalized, normalized)

/-- `_validate_shard`, with the directory that it looks at. -/
def Disk.validateShard (disk : Disk) (shard : String) : Except StoreError Directory :=
  match get disk shard with
  | some directory => return directory
  | none => throw .fileNotFound

def Disk.ensureShardDirectory (disk : Disk) (shard : String) : Disk :=
  if (get disk shard).isSome then disk else put disk shard []

def temporaryName (name temporary : String) : String :=
  "." ++ name ++ "." ++ temporary ++ ".tmp"

/-- `_write_sync` below the shard: the temporary file is linked to its name and removed. -/
def Directory.publish (directory : Directory) (name temporaryPath : String) (content : Bytes) :
    Except StoreError Answer × Directory :=
  if (get directory temporaryPath).isSome then
    (.error .fileConflict, erase directory temporaryPath)
  else
    let opened := put directory temporaryPath content
    if (get opened name).isSome then (.error .fileConflict, erase opened temporaryPath)
    else (.ok .written, erase (put opened name content) temporaryPath)

def Disk.write (disk : Disk) (fileId : String) (content : Bytes) (temporary : String) :
    Except StoreError Answer × Disk :=
  match pathOf fileId with
  | .error error => (.error error, disk)
  | .ok (shard, name) =>
      let ensured := disk.ensureShardDirectory shard
      match get ensured shard with
      | none => (.error .fileNotFound, ensured)
      | some directory =>
          let (answer, published) := directory.publish name (temporaryName name temporary) content
          (answer, put ensured shard published)

def Disk.openRegular (disk : Disk) (shard name : String) : Except StoreError Bytes := do
  let directory ← disk.validateShard shard
  match get directory name with
  | some content => return content
  | none => throw .fileNotFound

def Disk.readSync (disk : Disk) (shard name : String) (maxBytes : Int) :
    Except StoreError Answer :=
  match disk.openRegular shard name with
  | .error .fileNotFound => return .content none
  | .error error => throw error
  | .ok content =>
      let read := content.take (maxBytes + 1).toNat
      if (read.length : Int) > maxBytes then throw .fileTooLarge else return .content (some read)

def Disk.read (disk : Disk) (fileId : String) (maxBytes : Int) : Except StoreError Answer :=
  if maxBytes ≤ 0 then throw .valueError
  else do
    let (shard, name) ← pathOf fileId
    disk.readSync shard name maxBytes

def Disk.exists (sha256 : Bytes → String) (disk : Disk) (fileId : String)
    (expectedSize : Option Int) (expectedSha256 : Option String) : Except StoreError Answer := do
  let (shard, name) ← pathOf fileId
  match disk.openRegular shard name with
  | .error .fileNotFound => return .found false
  | .error error => throw error
  | .ok content => return .found (matchesExpected sha256 content expectedSize expectedSha256)

/-- `_delete_sync`: only the look at the file itself is inside a `try`. -/
def Disk.deleteSync (disk : Disk) (shard name : String) : Except StoreError Answer × Disk :=
  match disk.validateShard shard with
  | .error error => (.error error, disk)
  | .ok directory =>
      if (get directory name).isSome then
        (.ok (.deleted true), put disk shard (erase directory name))
      else (.ok (.deleted false), disk)

def Disk.delete (disk : Disk) (fileId : String) : Except StoreError Answer × Disk :=
  match pathOf fileId with
  | .error error => (.error error, disk)
  | .ok (shard, name) => disk.deleteSync shard name

/-- `_list_file_ids_sync`, in the order of the directories. -/
def Disk.listFileIds (disk : Disk) : List String :=
  disk.flatMap fun entry =>
    (entry.2.map (·.1)).filter fun name => !startsWith name "." && isFileId name

def Disk.apply (sha256 : Bytes → String) (disk : Disk) :
    Operation → Except StoreError Answer × Disk
  | .write fileId content temporary => disk.write fileId content temporary
  | .read fileId maxBytes => (disk.read fileId maxBytes, disk)
  | .exists fileId expectedSize expectedSha256 =>
      (disk.exists sha256 fileId expectedSize expectedSha256, disk)
  | .delete fileId => disk.delete fileId
  | .list => (.ok (.ids disk.listFileIds), disk)

/-! ## Runs -/

/-- The answers of a sequence of operations, where an operation may raise and the next follow. -/
def answers {State : Type} (apply : State → Operation → Except StoreError Answer × State)
    (state : State) : List Operation → List (Except StoreError Answer)
  | [] => []
  | operation :: rest => (apply state operation).1 :: answers apply (apply state operation).2 rest

end Hybro.RoomFiles
