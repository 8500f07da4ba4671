import CreatorNode.Objects.Rows

namespace CreatorNode

/-- The columns of a `File` row the check reads. `path` is the attribute its last error message
reads, `none` on a row without one. -/
structure FileRecord where
  fileUUID : String
  cnodeUserUUID : UUID
  multihash : Multihash
  dirMultihash : Option Multihash
  storagePath : String
  type : String
  path : Option String
  deriving DecidableEq, Repr

/-- A value as a template string prints it: `undefined` for a missing attribute. -/
def jsString : Option String → String
  | some v => v
  | none => "undefined"

/-- JavaScript's `!v` for an array `v`: an array, even an empty one, is an object, and truthy. -/
def arrayIsFalsy (_ : List α) : Bool := false

def isDirRecord (cnodeUserUUID : UUID) (imageDirCID : String) (f : FileRecord) : Bool :=
  f.multihash = imageDirCID && f.cnodeUserUUID = cnodeUserUUID && f.type = "dir"

def isImageRecord (cnodeUserUUID : UUID) (imageDirCID : String) (f : FileRecord) : Bool :=
  f.dirMultihash = some imageDirCID && f.cnodeUserUUID = cnodeUserUUID && f.type = "image"

/-- `validateStateForImageDirCIDAndReturnFileUUID(req, imageDirCID)` over the `File` table, in the
order the queries return its rows, and `fs.pathExists`; `cnodeUserUUID` is
`req.session.cnodeUserUUID`, `imageDirCID` is `none` when the object names no image. `Promise.all`
rejects with the error of the first check to fail; the model takes the first failing file in the
order `findAll` returned them. -/
def validateStateForImageDirCIDAndReturnFileUUID (files : List FileRecord)
    (pathExists : String → Bool) (cnodeUserUUID : UUID) (imageDirCID : Option String) :
    Except String (Option String) :=
  match imageDirCID with
  | none => .ok none
  | some imageDirCID =>
    if imageDirCID = "" then .ok none
    else
      match files.find? (isDirRecord cnodeUserUUID imageDirCID) with
      | none => .error ("No file stored in DB for imageDirCID " ++ imageDirCID)
      | some dirFile =>
        if !pathExists dirFile.storagePath then
          .error ("No dir found on disk for imageDirCID " ++ imageDirCID ++ " at expected path " ++
            dirFile.storagePath)
        else
          let imageFiles := files.filter (isImageRecord cnodeUserUUID imageDirCID)
          if arrayIsFalsy imageFiles then
            .error ("No image file records found in DB for imageDirCID " ++ imageDirCID)
          else
            match imageFiles.find? fun imageFile => !pathExists imageFile.storagePath with
            | some imageFile =>
              .error ("No file found on disk for imageDirCID " ++ imageDirCID ++
                " image file at path " ++ jsString imageFile.path)
            | none => .ok (some dirFile.fileUUID)

variable {files : List FileRecord} {pathExists : String → Bool} {owner : UUID}
  {imageDirCID : Option String}

theorem validateImageDir_ok_none_iff :
    validateStateForImageDirCIDAndReturnFileUUID files pathExists owner imageDirCID = .ok none ↔
      imageDirCID = none ∨ imageDirCID = some "" := by
  unfold validateStateForImageDirCIDAndReturnFileUUID
  rcases imageDirCID with _ | c
  · simp
  by_cases hc : c = ""
  · simp [hc]
  simp only [hc, if_false, Bool.not_eq_true', arrayIsFalsy, Bool.false_eq_true, reduceCtorEq,
    Option.some.injEq, false_or]
  split
  · simp
  · split
    · simp
    · split <;> simp

/-- The check returns a directory's `fileUUID` exactly when the object names an image directory
whose `dir` record this user holds (the first one, when there are several), whose directory is on
disk, and whose `image` records all point at files on disk. A directory with no image records
passes: `!imageFiles` is never true of the array `findAll` returns. -/
theorem validateImageDir_ok_some_iff {u : String} :
    validateStateForImageDirCIDAndReturnFileUUID files pathExists owner imageDirCID =
        .ok (some u) ↔
      ∃ c, imageDirCID = some c ∧ c ≠ "" ∧ ∃ dirFile,
        files.find? (isDirRecord owner c) = some dirFile ∧ pathExists dirFile.storagePath ∧
        (∀ f ∈ files, isImageRecord owner c f → pathExists f.storagePath) ∧
        dirFile.fileUUID = u := by
  unfold validateStateForImageDirCIDAndReturnFileUUID
  rcases imageDirCID with _ | c
  · simp
  by_cases hc : c = ""
  · simp [hc]
  simp only [hc, if_false, arrayIsFalsy, Bool.false_eq_true, Option.some.injEq, exists_eq_left',
    ne_eq, not_false_eq_true, true_and]
  split
  · rename_i hd; simp [hd]
  · rename_i dirFile hd
    by_cases hp : pathExists dirFile.storagePath
    · simp only [hp, Bool.not_true, Bool.false_eq_true, if_false]
      split
      · rename_i imageFile hi
        have hmem := List.mem_filter.mp (List.mem_of_find?_eq_some hi)
        have hmiss := List.find?_some hi
        simp only [reduceCtorEq, false_iff, not_exists, not_and]
        rintro d hd' - hall -
        obtain rfl : dirFile = d := Option.some.inj (hd.symm.trans hd')
        simp [hall _ hmem.1 hmem.2] at hmiss
      · rename_i hi
        simp only [List.find?_eq_none, List.mem_filter, Bool.not_eq_true', and_imp] at hi
        simp only [Except.ok.injEq, Option.some.injEq, hd, hp, true_and, exists_eq_left']
        exact ⟨fun h => ⟨fun f hf himg => by simpa using hi f hf himg, h⟩, fun h => h.2⟩
    · simp [hp, hd]

def coverDirFiles : List FileRecord :=
  [⟨"dir-uuid", 1, "QmDir", none, "/files/QmDir", "dir", none⟩,
    ⟨"img-uuid", 1, "QmImg", some "QmDir", "/files/QmDir/QmImg", "image", none⟩]

theorem validateImageDir_error_names_cid {msg : String}
    (h : validateStateForImageDirCIDAndReturnFileUUID files pathExists owner imageDirCID =
      .error msg) :
    ∃ c pre post, imageDirCID = some c ∧ c ≠ "" ∧ msg = pre ++ "imageDirCID " ++ c ++ post := by
  unfold validateStateForImageDirCIDAndReturnFileUUID at h
  rcases imageDirCID with _ | c
  · cases h
  by_cases hc : c = ""
  · simp [hc] at h
  refine ⟨c, ?_⟩
  simp only [hc, if_false, arrayIsFalsy, Bool.false_eq_true] at h
  split at h
  · cases h
    exact ⟨"No file stored in DB for ", "", rfl, hc, by simp [String.ext_iff, String.data_append]⟩
  · rename_i dirFile _
    split at h
    · cases h
      exact ⟨"No dir found on disk for ", " at expected path " ++ dirFile.storagePath, rfl, hc,
        by simp [String.ext_iff, String.data_append]⟩
    · split at h
      · rename_i imageFile _
        cases h
        exact ⟨"No file found on disk for ", " image file at path " ++ jsString imageFile.path, rfl,
          hc, by simp [String.ext_iff, String.data_append]⟩
      · cases h

example :
    validateStateForImageDirCIDAndReturnFileUUID coverDirFiles (· = "/files/QmDir") 1
        (some "QmDir") =
      .error "No file found on disk for imageDirCID QmDir image file at path undefined" := by
  rfl

end CreatorNode
