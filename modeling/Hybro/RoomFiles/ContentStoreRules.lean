import Mathlib.Data.List.Nodup
import Hybro.RoomFiles.ContentStore

/-! # The directory answers like the memory

The shards hold the contents by id. A step keeps that, and it answers like the store in
memory but for a deletion in a shard that was never written to.
-/

namespace Hybro.RoomFiles

open OrderedMap PythonText

/-! ## Ids -/

theorem normalizeFileId_ok {fileId : String} (h : isFileId fileId = true) :
    normalizeFileId fileId = .ok fileId := by
  rw [normalizeFileId, if_pos h]
  rfl

theorem normalizeFileId_error {fileId : String} (h : isFileId fileId = false) :
    normalizeFileId fileId = .error .valueError := by
  rw [normalizeFileId, if_neg (by simp [h])]
  rfl

theorem pathOf_ok {fileId : String} (h : isFileId fileId = true) :
    pathOf fileId = .ok (shardOf fileId, fileId) := by
  rw [pathOf, normalizeFileId_ok h]
  rfl

theorem pathOf_error {fileId : String} (h : isFileId fileId = false) :
    pathOf fileId = .error .valueError := by
  rw [pathOf, normalizeFileId_error h]
  rfl

theorem isFileId_temporaryName (name temporary : String) :
    isFileId (temporaryName name temporary) = false := by
  have hdot : isLowerHex '.' = false := by decide
  simp [isFileId, temporaryName, String.toList_append, hdot]

theorem startsWith_dot_of_isFileId {name : String} (h : isFileId name = true) :
    startsWith name "." = false := by
  cases hchars : name.toList with
  | nil => simp [startsWith, hchars]
  | cons c rest =>
      have hc : isLowerHex c = true := by
        simp only [isFileId, hchars, Bool.and_eq_true, List.all_cons] at h
        exact h.2.1
      have hne : c ≠ '.' := by
        rintro rfl
        exact absurd hc (by decide)
      simp [startsWith, hchars, List.isPrefixOf, hne.symm]

/-! ## The relation -/

def Disk.lookup (disk : Disk) (fileId : String) : Option Bytes :=
  (get disk (shardOf fileId)).bind (get · fileId)

structure Refines (disk : Disk) (contents : Contents) : Prop where
  shards : (disk.map (·.1)).Nodup
  names : ∀ {shard directory}, get disk shard = some directory → (directory.map (·.1)).Nodup
  files : ∀ {shard directory name}, get disk shard = some directory →
    (get directory name).isSome = true → isFileId name = true ∧ shardOf name = shard
  held : (contents.map (·.1)).Nodup
  ids : ∀ {fileId}, (get contents fileId).isSome = true → isFileId fileId = true
  same : ∀ {fileId}, isFileId fileId = true → disk.lookup fileId = get contents fileId

theorem Refines.empty : Refines [] [] where
  shards := List.nodup_nil
  names := nofun
  files := nofun
  held := List.nodup_nil
  ids := nofun
  same := fun _ => rfl

section Steps

variable {disk next : Disk} {contents : Contents} {fileId : String}

theorem Refines.change (h : Refines disk contents) {directory : Directory} {contents' : Contents}
    (hid : isFileId fileId = true) (hshards : (next.map (·.1)).Nodup)
    (hshard : get next (shardOf fileId) = some directory)
    (hothers : ∀ shard, shard ≠ shardOf fileId → get next shard = get disk shard)
    (hnames : (directory.map (·.1)).Nodup)
    (hfiles : ∀ name, name ≠ fileId →
      get directory name = (get disk (shardOf fileId)).bind (get · name))
    (hheld : (contents'.map (·.1)).Nodup)
    (hcontents : ∀ other, other ≠ fileId → get contents' other = get contents other)
    (hsame : get directory fileId = get contents' fileId) :
    Refines next contents' where
  shards := hshards
  names := by
    intro shard other hother
    by_cases heq : shard = shardOf fileId
    · subst heq
      rw [hshard] at hother
      cases hother
      exact hnames
    · rw [hothers shard heq] at hother
      exact h.names hother
  files := by
    intro shard other name hother hname
    by_cases heq : shard = shardOf fileId
    · subst heq
      rw [hshard] at hother
      cases hother
      by_cases hsameName : name = fileId
      · subst hsameName
        exact ⟨hid, rfl⟩
      · rw [hfiles name hsameName] at hname
        cases hdirectory : get disk (shardOf fileId) with
        | none =>
            rw [hdirectory] at hname
            cases hname
        | some before =>
            rw [hdirectory] at hname
            exact h.files hdirectory hname
    · rw [hothers shard heq] at hother
      exact h.files hother hname
  held := hheld
  ids := by
    intro other hother
    by_cases heq : other = fileId
    · rw [heq]
      exact hid
    · rw [hcontents other heq] at hother
      exact h.ids hother
  same := by
    intro other hother
    by_cases heq : other = fileId
    · subst heq
      rw [Disk.lookup, hshard]
      exact hsame
    · rw [hcontents other heq, ← h.same hother]
      by_cases hshardSame : shardOf other = shardOf fileId
      · rw [Disk.lookup, Disk.lookup, hshardSame, hshard]
        exact hfiles other heq
      · rw [Disk.lookup, Disk.lookup, hothers _ hshardSame]

/-! ## Writing -/

theorem publish_eq {directory : Directory} {name : String} (temporary : String) (content : Bytes)
    (htemporary : get directory (temporaryName name temporary) = none)
    (hne : name ≠ temporaryName name temporary) :
    directory.publish name (temporaryName name temporary) content =
      if (get directory name).isSome then (.error .fileConflict, directory)
      else (.ok .written, erase (put (put directory (temporaryName name temporary) content) name
        content) (temporaryName name temporary)) := by
  unfold Directory.publish
  rw [if_neg (by simp [htemporary])]
  simp only [get_put_of_ne _ hne, erase_put_of_new _ htemporary]

theorem get_ensureShardDirectory (disk : Disk) (shard : String) :
    get (disk.ensureShardDirectory shard) shard = some ((get disk shard).getD []) := by
  unfold Disk.ensureShardDirectory
  split
  · rename_i hsome
    obtain ⟨directory, hdirectory⟩ := Option.isSome_iff_exists.mp hsome
    rw [hdirectory, Option.getD_some]
  · rename_i hnone
    rw [get_put_self, Option.not_isSome_iff_eq_none.mp hnone, Option.getD_none]

theorem get_ensureShardDirectory_of_ne {shard other : String} (h : other ≠ shard) :
    get (disk.ensureShardDirectory shard) other = get disk other := by
  unfold Disk.ensureShardDirectory
  split
  · rfl
  · exact get_put_of_ne _ h

theorem nodup_ensureShardDirectory (shard : String) (h : (disk.map (·.1)).Nodup) :
    ((disk.ensureShardDirectory shard).map (·.1)).Nodup := by
  unfold Disk.ensureShardDirectory
  split
  · exact h
  · exact nodup_put h

theorem Refines.no_temporary (h : Refines disk contents) (shard name temporary : String) :
    get ((get disk shard).getD []) (temporaryName name temporary) = none := by
  cases hdirectory : get disk shard with
  | none => rfl
  | some directory =>
      cases hfile : get directory (temporaryName name temporary) with
      | none => rw [Option.getD_some, hfile]
      | some content =>
          have hname := (h.files hdirectory (by rw [hfile]; rfl)).1
          rw [isFileId_temporaryName] at hname
          cases hname

theorem Refines.write_eq (h : Refines disk contents) (hid : isFileId fileId = true)
    (content : Bytes) (temporary : String) :
    ∃ directory, get (disk.ensureShardDirectory (shardOf fileId)) (shardOf fileId) =
        some directory ∧ directory = (get disk (shardOf fileId)).getD [] ∧
      disk.write fileId content temporary =
        if (get directory fileId).isSome then
          (.error .fileConflict,
            put (disk.ensureShardDirectory (shardOf fileId)) (shardOf fileId) directory)
        else (.ok .written, put (disk.ensureShardDirectory (shardOf fileId)) (shardOf fileId)
          (erase (put (put directory (temporaryName fileId temporary) content) fileId content)
            (temporaryName fileId temporary))) := by
  have hensured := get_ensureShardDirectory disk (shardOf fileId)
  have hne : fileId ≠ temporaryName fileId temporary := by
    intro hsame
    rw [hsame, isFileId_temporaryName] at hid
    cases hid
  refine ⟨_, hensured, rfl, ?_⟩
  simp only [Disk.write, pathOf_ok hid, hensured,
    publish_eq temporary content (h.no_temporary _ _ _) hne]
  split <;> rfl

theorem Refines.lookup_getD (fileId : String) :
    get ((get disk (shardOf fileId)).getD []) fileId = disk.lookup fileId := by
  unfold Disk.lookup
  cases get disk (shardOf fileId) <;> rfl

theorem Refines.write_new (h : Refines disk contents) (hid : isFileId fileId = true)
    (hnone : get contents fileId = none) (content : Bytes) (temporary : String) :
    (disk.write fileId content temporary).1 = .ok .written ∧
      Refines (disk.write fileId content temporary).2 (put contents fileId content) := by
  obtain ⟨directory, hdirectory, hbefore, hwrite⟩ := h.write_eq hid content temporary
  have hfile : get directory fileId = none := by
    rw [hbefore, Refines.lookup_getD, h.same hid, hnone]
  have htemporary : get directory (temporaryName fileId temporary) = none := by
    rw [hbefore]
    exact h.no_temporary _ _ _
  have hne : fileId ≠ temporaryName fileId temporary := by
    intro hsame
    rw [hsame, isFileId_temporaryName] at hid
    cases hid
  have hnodup : (directory.map (·.1)).Nodup := by
    rw [hbefore]
    cases hshard : get disk (shardOf fileId) with
    | none => exact List.nodup_nil
    | some other => exact h.names hshard
  rw [hwrite, if_neg (by simp [hfile])]
  refine ⟨rfl, h.change hid (nodup_put (nodup_ensureShardDirectory _ h.shards))
    (get_put_self _ _ _) ?_ (nodup_erase _ (nodup_put (nodup_put hnodup))) ?_ (nodup_put h.held)
    ?_ ?_⟩
  · intro shard hother
    rw [get_put_of_ne _ hother, get_ensureShardDirectory_of_ne hother]
  · intro name hother
    have hbind : (get disk (shardOf fileId)).bind (get · name) = get directory name := by
      rw [hbefore]
      cases get disk (shardOf fileId) <;> rfl
    rw [hbind]
    by_cases htemp : name = temporaryName fileId temporary
    · rw [htemp, get_erase_self, htemporary]
    · rw [get_erase_of_ne htemp, get_put_of_ne _ hother, get_put_of_ne _ htemp]
  · intro other hother
    exact get_put_of_ne _ hother
  · rw [get_erase_of_ne hne, get_put_self, get_put_self]

theorem Refines.write (h : Refines disk contents) (fileId : String) (content : Bytes)
    (temporary : String) :
    (disk.write fileId content temporary).1 = (contents.write fileId content).1 ∧
      Refines (disk.write fileId content temporary).2 (contents.write fileId content).2 := by
  cases hid : isFileId fileId with
  | false =>
      simp only [Disk.write, Contents.write, pathOf_error hid, normalizeFileId_error hid]
      exact ⟨trivial, h⟩
  | true =>
      cases hfile : get contents fileId with
      | none =>
          simp only [Contents.write, normalizeFileId_ok hid, hfile, Option.isSome_none,
            Bool.false_eq_true, if_false]
          exact h.write_new hid hfile content temporary
      | some before =>
          obtain ⟨directory, hdirectory, hbefore, hwrite⟩ := h.write_eq hid content temporary
          have hthere : get directory fileId = some before := by
            rw [hbefore, Refines.lookup_getD, h.same hid, hfile]
          have hshard : (get disk (shardOf fileId)).isSome = true := by
            have hlookup := h.same hid
            rw [hfile, Disk.lookup] at hlookup
            cases hget : get disk (shardOf fileId) with
            | none =>
                rw [hget] at hlookup
                cases hlookup
            | some _ => rfl
          have hensured : disk.ensureShardDirectory (shardOf fileId) = disk := by
            rw [Disk.ensureShardDirectory, if_pos hshard]
          rw [hensured] at hdirectory hwrite
          rw [hwrite, if_pos (by simp [hthere]), put_of_get hdirectory]
          simp only [Contents.write, normalizeFileId_ok hid, hfile, Option.isSome_some, if_true]
          exact ⟨trivial, h⟩

/-! ## Reading -/

theorem openRegular_eq :
    disk.openRegular (shardOf fileId) fileId =
      match disk.lookup fileId with
      | some content => .ok content
      | none => .error .fileNotFound := by
  unfold Disk.openRegular Disk.validateShard Disk.lookup
  cases get disk (shardOf fileId) with
  | none => rfl
  | some directory => cases hfile : get directory fileId <;> simp [hfile] <;> rfl

theorem Refines.read (h : Refines disk contents) (fileId : String) (maxBytes : Int) :
    disk.read fileId maxBytes = contents.read fileId maxBytes := by
  unfold Disk.read Contents.read
  cases hid : isFileId fileId with
  | false =>
      simp only [pathOf_error hid, normalizeFileId_error hid, Bind.bind, Except.bind]
      split <;> rfl
  | true =>
      simp only [pathOf_ok hid, normalizeFileId_ok hid, Bind.bind, Except.bind, Disk.readSync,
        openRegular_eq, h.same hid]
      split
      · rfl
      · rename_i hpositive
        cases get contents fileId with
        | none => rfl
        | some content =>
            have hlength : ((content.take (maxBytes + 1).toNat).length : Int) > maxBytes ↔
                (content.length : Int) > maxBytes := by
              rw [List.length_take]
              omega
            by_cases hlong : (content.length : Int) > maxBytes
            · simp only [hlength.mpr hlong, hlong, if_true]
            · have hwhole : content.take (maxBytes + 1).toNat = content := by
                apply List.take_of_length_le
                omega
              simp only [hwhole, hlong, if_false]

theorem Refines.exists (h : Refines disk contents) (sha256 : Bytes → String) (fileId : String)
    (expectedSize : Option Int) (expectedSha256 : Option String) :
    disk.exists sha256 fileId expectedSize expectedSha256 =
      contents.exists sha256 fileId expectedSize expectedSha256 := by
  unfold Disk.exists Contents.exists
  cases hid : isFileId fileId with
  | false => simp only [pathOf_error hid, normalizeFileId_error hid, Bind.bind, Except.bind]
  | true =>
      simp only [pathOf_ok hid, normalizeFileId_ok hid, Bind.bind, Except.bind,
        openRegular_eq, h.same hid]
      cases get contents fileId <;> rfl

/-! ## Deleting -/

theorem Refines.delete_unsharded (h : Refines disk contents) (hid : isFileId fileId = true)
    (hshard : get disk (shardOf fileId) = none) :
    disk.delete fileId = (.error .fileNotFound, disk) ∧
      contents.delete fileId = (.ok (.deleted false), contents) := by
  have hnone : get contents fileId = none := by
    rw [← h.same hid, Disk.lookup, hshard]
    rfl
  constructor
  · simp only [Disk.delete, pathOf_ok hid, Disk.deleteSync, Disk.validateShard, hshard]
    rfl
  · simp only [Contents.delete, normalizeFileId_ok hid, hnone, erase_of_get_eq_none hnone]
    rfl

theorem Refines.delete_sharded (h : Refines disk contents) (hid : isFileId fileId = true)
    {directory : Directory} (hshard : get disk (shardOf fileId) = some directory) :
    (disk.delete fileId).1 = (contents.delete fileId).1 ∧
      Refines (disk.delete fileId).2 (contents.delete fileId).2 := by
  have hlookup : get directory fileId = get contents fileId := by
    rw [← h.same hid, Disk.lookup, hshard]
    rfl
  simp only [Disk.delete, pathOf_ok hid, Disk.deleteSync, Disk.validateShard, hshard,
    Contents.delete, normalizeFileId_ok hid, pure, Except.pure, hlookup]
  cases hfile : get contents fileId with
  | none =>
      rw [erase_of_get_eq_none hfile]
      exact ⟨rfl, h⟩
  | some content =>
      refine ⟨rfl, h.change hid (nodup_put h.shards) (get_put_self _ _ _) ?_
        (nodup_erase _ (h.names hshard)) ?_ (nodup_erase _ h.held) ?_ ?_⟩
      · intro shard hother
        exact get_put_of_ne _ hother
      · intro name hother
        rw [get_erase_of_ne hother, hshard]
        rfl
      · intro other hother
        exact get_erase_of_ne hother
      · rw [get_erase_self, get_erase_self]

/-! ## Listing -/

theorem Refines.mem_listFileIds (h : Refines disk contents) (name : String) :
    name ∈ disk.listFileIds ↔ name ∈ contents.map (·.1) := by
  simp only [Disk.listFileIds, List.mem_flatMap, List.mem_filter, Bool.and_eq_true,
    Bool.not_eq_true', mem_keys_iff]
  constructor
  · rintro ⟨⟨shard, directory⟩, hentry, hname, -, hid⟩
    have hshard := (mem_iff_get h.shards).mp hentry
    obtain ⟨-, rfl⟩ := h.files hshard hname
    rw [← h.same hid, Disk.lookup, hshard]
    exact hname
  · intro hname
    have hid := h.ids hname
    rw [← h.same hid, Disk.lookup] at hname
    cases hshard : get disk (shardOf name) with
    | none =>
        rw [hshard] at hname
        cases hname
    | some directory =>
        rw [hshard] at hname
        exact ⟨(shardOf name, directory), (mem_iff_get h.shards).mpr hshard, hname,
          startsWith_dot_of_isFileId hid, hid⟩

theorem Refines.nodup_listFileIds (h : Refines disk contents) : disk.listFileIds.Nodup := by
  unfold Disk.listFileIds
  rw [List.nodup_flatMap]
  constructor
  · rintro ⟨shard, directory⟩ hentry
    exact (h.names ((mem_iff_get h.shards).mp hentry)).filter _
  · have hkeys : disk.Pairwise fun first second => first.1 ≠ second.1 :=
      List.pairwise_map.mp h.shards
    refine hkeys.imp_of_mem ?_
    rintro ⟨first, directory⟩ ⟨second, other⟩ hfirst hsecond hne
    intro name hname hagain
    rw [List.mem_filter, mem_keys_iff] at hname hagain
    have hshard := (h.files ((mem_iff_get h.shards).mp hfirst) hname.1).2
    have hsame := (h.files ((mem_iff_get h.shards).mp hsecond) hagain.1).2
    exact hne (hshard.symm.trans hsame)

theorem Refines.listFileIds_perm (h : Refines disk contents) :
    disk.listFileIds.Perm (contents.map (·.1)) :=
  (List.perm_ext_iff_of_nodup h.nodup_listFileIds h.held).mpr h.mem_listFileIds

end Steps

/-! ## Runs -/

/-- The same answer or the same class of error. A directory lists in an order of its own. -/
def SameAnswer : Except StoreError Answer → Except StoreError Answer → Prop
  | .ok (.ids first), .ok (.ids second) => first.Perm second
  | first, second => first = second

theorem SameAnswer.of_eq {first second : Except StoreError Answer} (h : first = second) :
    SameAnswer first second := by
  subst h
  rcases first with error | answer
  · rfl
  · cases answer <;> first | exact List.Perm.refl _ | rfl

def Operation.shards : Operation → List String
  | .write fileId _ _ => if isFileId fileId then [shardOf fileId] else []
  | _ => []

def Operation.Finds (written : List String) : Operation → Prop
  | .delete fileId => isFileId fileId = true → shardOf fileId ∈ written
  | _ => True

/-- The shards of the disk are those written to. -/
def Covers (disk : Disk) (written : List String) : Prop :=
  ∀ shard, (get disk shard).isSome = true ↔ shard ∈ written

section Runs

variable {disk : Disk} {contents : Contents} {written : List String}

theorem isSome_get_put {map : Disk} {key other : String} (value : Directory) :
    (get (put map key value) other).isSome = true ↔
      (get map other).isSome = true ∨ other = key := by
  by_cases h : other = key
  · simp [h, get_put_self]
  · simp [h, get_put_of_ne _ h]

theorem isSome_ensureShardDirectory (disk : Disk) (shard other : String) :
    (get (disk.ensureShardDirectory shard) other).isSome = true ↔
      (get disk other).isSome = true ∨ other = shard := by
  by_cases h : other = shard
  · simp [h, get_ensureShardDirectory]
  · simp [h, get_ensureShardDirectory_of_ne h]

theorem Covers.write (hcovers : Covers disk written) (h : Refines disk contents) (fileId : String)
    (content : Bytes) (temporary : String) :
    Covers (disk.write fileId content temporary).2
      (written ++ (Operation.write fileId content temporary).shards) := by
  intro shard
  cases hid : isFileId fileId with
  | false =>
      simp only [Disk.write, pathOf_error hid, Operation.shards, hid, Bool.false_eq_true, if_false,
        List.append_nil]
      exact hcovers shard
  | true =>
      obtain ⟨directory, -, -, hwrite⟩ := h.write_eq hid content temporary
      have hkeys : (get (disk.write fileId content temporary).2 shard).isSome = true ↔
          (get disk shard).isSome = true ∨ shard = shardOf fileId := by
        rw [hwrite]
        split
        · simp [isSome_get_put, isSome_ensureShardDirectory]
        · simp [isSome_get_put, isSome_ensureShardDirectory]
      rw [hkeys, hcovers shard]
      simp [Operation.shards, hid]

theorem Covers.delete (hcovers : Covers disk written) (fileId : String) :
    Covers (disk.delete fileId).2 written := by
  intro shard
  rw [← hcovers shard]
  cases hid : isFileId fileId with
  | false => simp only [Disk.delete, pathOf_error hid]
  | true =>
      simp only [Disk.delete, pathOf_ok hid, Disk.deleteSync, Disk.validateShard]
      cases hshard : get disk (shardOf fileId) with
      | none => rfl
      | some directory =>
          simp only [pure, Except.pure]
          split
          · rw [isSome_get_put]
            refine or_iff_left_of_imp ?_
            rintro rfl
            rw [hshard]
            rfl
          · rfl

/-- One operation: both stores stay related, and the answers agree unless a deletion misses
its shard. -/
theorem Refines.apply (h : Refines disk contents) (hcovers : Covers disk written)
    (sha256 : Bytes → String) (operation : Operation) :
    Refines (disk.apply sha256 operation).2 (contents.apply sha256 operation).2 ∧
      Covers (disk.apply sha256 operation).2 (written ++ operation.shards) ∧
      (SameAnswer (disk.apply sha256 operation).1 (contents.apply sha256 operation).1 ↔
        operation.Finds written) := by
  cases operation with
  | write fileId content temporary =>
      obtain ⟨hanswer, hnext⟩ := h.write fileId content temporary
      exact ⟨hnext, hcovers.write h fileId content temporary,
        iff_of_true (SameAnswer.of_eq hanswer) trivial⟩
  | read fileId maxBytes =>
      refine ⟨h, by simpa [Operation.shards, Disk.apply] using hcovers, iff_of_true ?_ trivial⟩
      exact SameAnswer.of_eq (h.read fileId maxBytes)
  | «exists» fileId expectedSize expectedSha256 =>
      refine ⟨h, by simpa [Operation.shards, Disk.apply] using hcovers, iff_of_true ?_ trivial⟩
      exact SameAnswer.of_eq (h.exists sha256 fileId expectedSize expectedSha256)
  | delete fileId =>
      have hcovers' : Covers (disk.delete fileId).2 (written ++ (Operation.delete fileId).shards) := by
        simpa [Operation.shards] using hcovers.delete fileId
      cases hid : isFileId fileId with
      | false =>
          have hdisk : disk.delete fileId = (.error .valueError, disk) := by
            simp only [Disk.delete, pathOf_error hid]
          have hcontents : contents.delete fileId = (.error .valueError, contents) := by
            simp only [Contents.delete, normalizeFileId_error hid]
          simp only [Disk.apply, Contents.apply, hdisk, hcontents]
          refine ⟨h, by simpa [Operation.shards] using hcovers, iff_of_true rfl ?_⟩
          intro htrue
          rw [hid] at htrue
          cases htrue
      | true =>
          cases hshard : get disk (shardOf fileId) with
          | none =>
              obtain ⟨hdisk, hcontents⟩ := h.delete_unsharded hid hshard
              simp only [Disk.apply, Contents.apply, hdisk, hcontents]
              refine ⟨h, by simpa [Operation.shards] using hcovers, iff_of_false nofun ?_⟩
              intro hfinds
              have hsome := (hcovers (shardOf fileId)).mpr (hfinds hid)
              rw [hshard] at hsome
              cases hsome
          | some directory =>
              obtain ⟨hanswer, hnext⟩ := h.delete_sharded hid hshard
              refine ⟨hnext, hcovers', iff_of_true (SameAnswer.of_eq hanswer) ?_⟩
              intro _
              exact (hcovers (shardOf fileId)).mp (by rw [hshard]; rfl)
  | list =>
      refine ⟨h, by simpa [Operation.shards, Disk.apply] using hcovers, iff_of_true ?_ trivial⟩
      exact h.listFileIds_perm

/-- Every deletion of a run finds its shard among those written to before it. -/
def DeletesFindShards (written : List String) (operations : List Operation) : Prop :=
  ∀ before operation after, operations = before ++ operation :: after →
    operation.Finds (written ++ before.flatMap Operation.shards)

theorem deletesFindShards_cons {operation : Operation} {rest : List Operation} :
    DeletesFindShards written (operation :: rest) ↔
      operation.Finds written ∧ DeletesFindShards (written ++ operation.shards) rest := by
  constructor
  · intro h
    refine ⟨by simpa using h [] operation rest rfl, ?_⟩
    rintro before other after rfl
    simpa using h (operation :: before) other after rfl
  · rintro ⟨hfirst, hrest⟩ before other after hsplit
    cases before with
    | nil =>
        cases hsplit
        simpa using hfirst
    | cons first before =>
        cases hsplit
        simpa using hrest before other after rfl

theorem Refines.answers (h : Refines disk contents) (hcovers : Covers disk written)
    (sha256 : Bytes → String) (operations : List Operation) :
    List.Forall₂ SameAnswer (RoomFiles.answers (Disk.apply sha256) disk operations)
        (RoomFiles.answers (Contents.apply sha256) contents operations) ↔
      DeletesFindShards written operations := by
  induction operations generalizing disk contents written with
  | nil =>
      refine iff_of_true .nil ?_
      intro before operation after hsplit
      cases before <;> cases hsplit
  | cons operation rest ih =>
      obtain ⟨hnext, hcovers', hsame⟩ := h.apply hcovers sha256 operation
      rw [RoomFiles.answers, RoomFiles.answers, List.forall₂_cons, hsame, ih hnext hcovers',
        deletesFindShards_cons]

end Runs

/-- From an empty directory on, the store on disk answers like the store in memory exactly when
every deletion of an id comes after a write in the shard of that id. -/
theorem local_answers_as_memory (sha256 : Bytes → String) (operations : List Operation) :
    List.Forall₂ SameAnswer (answers (Disk.apply sha256) [] operations)
        (answers (Contents.apply sha256) [] operations) ↔
      ∀ before fileId after, operations = before ++ .delete fileId :: after →
        isFileId fileId = true → shardOf fileId ∈ before.flatMap Operation.shards := by
  have hcovers : Covers [] [] := fun shard => iff_of_false (by simp [OrderedMap.get]) nofun
  rw [Refines.empty.answers hcovers]
  constructor
  · intro h before fileId after hsplit
    simpa [Operation.Finds] using h before (.delete fileId) after hsplit
  · intro h before operation after hsplit
    cases operation with
    | delete fileId => simpa [Operation.Finds] using h before fileId after hsplit
    | write _ _ _ | read _ _ | «exists» _ _ _ | list => trivial

/-- The compensation of a file whose content was never written, in a new store. -/
theorem local_delete_unwritten :
    answers (Disk.apply fun _ => "") []
        [.delete "0123456789abcdef0123456789abcdef"] = [.error .fileNotFound] ∧
      answers (Contents.apply fun _ => "") []
        [.delete "0123456789abcdef0123456789abcdef"] = [.ok (.deleted false)] ∧
      ¬List.Forall₂ SameAnswer
        (answers (Disk.apply fun _ => "") [] [.delete "0123456789abcdef0123456789abcdef"])
        (answers (Contents.apply fun _ => "") [] [.delete "0123456789abcdef0123456789abcdef"]) := by
  have hdisk : answers (Disk.apply fun _ => "") []
      [.delete "0123456789abcdef0123456789abcdef"] = [.error .fileNotFound] := by decide +kernel
  have hmemory : answers (Contents.apply fun _ => "") []
      [.delete "0123456789abcdef0123456789abcdef"] = [.ok (.deleted false)] := by decide +kernel
  refine ⟨hdisk, hmemory, ?_⟩
  rw [hdisk, hmemory]
  intro h
  cases h with
  | cons hsame _ => cases hsame

end Hybro.RoomFiles
