/-
The attachments of a turn (`remote_executor/device_agent.py`, `_build_turn_input_items`).  Images
are written to files and handed over as such, or as data URLs; other attachments are quoted in
the prompt, or written to files that the prompt names.
-/
import OpsCure.Library.Fresh
import OpsCure.Library.Numerals
import OpsCure.Library.Trimming
import OpsCure.Rollout

namespace OpsCure.Attachments

open Fallible Fresh Rollout

abbrev Bytes := List UInt8

/-- What the agent takes from Python's library beyond the rollout's: `lower`, the parts of a
`Path`, `b64decode`, where nothing stands for an exception, and the decoding of UTF-8. -/
structure Library extends Rollout.Python where
  lower : String → String
  name : String → String
  stem : String → String
  suffix : String → String
  b64decode : String → Option Bytes
  decode : Bytes → String
  /-- Two numbers in one name are told apart in lower case as well. -/
  numbered : ∀ start stop : String,
    Function.Injective fun i : Nat => lower (start ++ "-" ++ toString i ++ stop)

inductive InputItem where
  | text (text : String)
  | localImage (name : String)
  | image (url : String)

def InputItem.isImage : InputItem → Bool
  | .text _ => false
  | _ => true

/-- A file of the turn's directory, by its name there. -/
structure Request where
  first : String
  stem : String
  suffix : String
  payload : Bytes

/-- What the turn starts with, and the files that were written for it in order. -/
structure Turn where
  items : List InputItem
  written : List (String × Bytes)

/-- What a file of the directory holds in the end. -/
def Turn.content (turn : Turn) (name : String) : Option Bytes := turn.written.reverse.lookup name

section
variable (python : Library)

def compactText (value : Json) (fallback : String) : String := compact python.toPython value fallback

def lowered (value : Json) : String := python.lower (compactText python value "")

def imageSuffixes : List String := [".png", ".jpg", ".jpeg", ".gif", ".webp", ".bmp", ".svg"]

/-- `normalize_attachment_kind(...) == "image"`. -/
def isImage (attachment : Json) : Bool :=
  lowered python (attachment.get "kind") = "image" ∨
    "image/".toList <+: (lowered python (attachment.get "mimeType")).toList ∨
    python.lower (python.suffix (lowered python (attachment.get "name"))) ∈ imageSuffixes

def textSuffixes : List String :=
  [".md", ".mdx", ".txt", ".json", ".yaml", ".yml", ".toml", ".ini", ".cfg", ".csv", ".tsv",
    ".xml", ".html", ".htm", ".css", ".js", ".jsx", ".ts", ".tsx", ".py", ".rb", ".go", ".rs",
    ".java", ".kt", ".swift", ".c", ".cc", ".cpp", ".h", ".hpp", ".cs", ".php", ".sh", ".ps1",
    ".sql", ".log"]

def textTypes : List String :=
  ["application/json", "application/ld+json", "application/xml", "application/x-yaml",
    "application/yaml", "application/toml", "application/javascript", "application/typescript"]

/-- `is_inline_text_attachment`. -/
def isInlineText (attachment : Json) (payload : Bytes) : Bool :=
  let mimeType := lowered python (attachment.get "mimeType")
  payload ≠ [] ∧ payload.length ≤ 128 * 1024 ∧
    ("text/".toList <+: mimeType.toList ∨ mimeType ∈ textTypes ∨
      python.suffix (lowered python (attachment.get "name")) ∈ textSuffixes ∨ 0 ∉ payload)

/-- `_decode_attachment_bytes`. -/
def decodeBytes (value : Json) : Except Unit Bytes :=
  if compactText python value "" = "" then .ok []
  else orRaise (python.b64decode (compactText python value "")) ()

def dataUrl (attachment : Json) : String := compactText python (attachment.get "dataUrl") ""

def dataUrlBytes (url : List Char) : Bytes :=
  let header := url.takeWhile (· ≠ ',')
  if ',' ∈ url ∧ "base64".toList <:+: (python.lower (String.ofList header)).toList then
    (python.b64decode (String.ofList (url.drop (header.length + 1)))).getD []
  else []

/-- `_decode_image_attachment_bytes`. -/
def decodeImageBytes (attachment : Json) : Except Unit Bytes :=
  (fun payload => if payload = [] then dataUrlBytes python (dataUrl python attachment).toList
    else payload) <$> decodeBytes python (attachment.get "bytesBase64")

/-- `_sanitize_attachment_filename`. -/
def sanitizeFilename (value : Json) (index : Nat) : String :=
  let candidate := python.name (compactText python value ("attachment-" ++ toString index))
  if candidate = "" then "attachment-" ++ toString index else candidate

def imageRequest (attachment : Json) (index : Nat) (payload : Bytes) : Request :=
  let filename := sanitizeFilename python (orElse (attachment.get "name")
    (.str ("image-" ++ toString index ++ ".png"))) index
  let stem := Text.orElse (some (python.stem filename)) ("image-" ++ toString index)
  let suffix := Text.orElse (some (python.suffix filename)) ".png"
  { first := if python.suffix filename = "" then stem ++ suffix else filename
    stem := stem
    suffix := suffix
    payload := payload }

def fileRequest (attachment : Json) (index : Nat) (payload : Bytes) : Request :=
  let filename := sanitizeFilename python (attachment.get "name") index
  { first := filename
    stem := Text.orElse (some (python.stem filename)) ("attachment-" ++ toString index)
    suffix := python.suffix filename
    payload := payload }

/-- The name of a file, told apart from the ones in use without regard to case. -/
def nameFor (used : List String) (request : Request) : String :=
  firstFree python.lower used request.first
    fun i => request.stem ++ "-" ++ toString i ++ request.suffix

/-- The files of one kind, each under a name that none of them has yet. -/
def allot (used : List String) : List Request → List (String × Bytes)
  | [] => []
  | request :: rest =>
      let candidate := nameFor python used request
      (candidate, request.payload) :: allot (python.lower candidate :: used) rest

/-- The attachments of a kind with their positions, counted from one, and their bytes. -/
def decoded (image : Bool) (attachments : List Json) :
    Except Unit (List ((Json × Nat) × Bytes)) :=
  ((attachments.zipIdx 1).filter fun entry => isImage python entry.1 = image).mapM fun entry =>
    (fun payload => (entry, payload)) <$>
      if image then decodeImageBytes python entry.1
      else decodeBytes python (entry.1.get "bytesBase64")

def imageRequests (images : List ((Json × Nat) × Bytes)) : List Request :=
  (images.filter (·.2 ≠ [])).map fun entry => imageRequest python entry.1.1 entry.1.2 entry.2

def fileRequests (files : List ((Json × Nat) × Bytes)) : List Request :=
  (files.filter fun entry => entry.2 ≠ [] ∧ ¬ isInlineText python entry.1.1 entry.2).map
    fun entry => fileRequest python entry.1.1 entry.1.2 entry.2

/-- The images with the local paths: each takes the next path as long as there is one. -/
def imageInputs : List Json → List String → List InputItem
  | [], _ => []
  | _ :: rest, path :: paths => .localImage path :: imageInputs rest paths
  | attachment :: rest, [] =>
      (if dataUrl python attachment = "" then [] else [.image (dataUrl python attachment)]) ++
        imageInputs rest []

/-- `infer_attachment_code_fence`. -/
def codeFence (filename : String) (mimeType : Json) : String :=
  let mimeType := (lowered python mimeType).toList
  let suffix := python.suffix (lowered python (.str filename))
  if suffix ∈ [".yaml", ".yml"] then "yaml"
  else if suffix = ".txt" then "text"
  else if suffix ≠ "" then String.ofList (suffix.toList.drop 1)
  else if "text/".toList <+: mimeType then String.ofList (mimeType.drop 5)
  else ""

/-- `_build_inline_text_attachment_blocks`, of one attachment. -/
def inlineBlock (entry : (Json × Nat) × Bytes) : Option String :=
  let filename := sanitizeFilename python (entry.1.1.get "name") entry.1.2
  let text := String.ofList (Trimming.trimBy (· = '\n')
    (Lines.universalNewlines (python.decode entry.2).toList))
  if isInlineText python entry.1.1 entry.2 = false ∨ text = "" then none
  else some ("Attached file: " ++ filename ++ "\n```" ++
    codeFence python filename (entry.1.1.get "mimeType") ++ "\n" ++ text ++ "\n```")

def turnPrompt (prompt directory : String) (files : List ((Json × Nat) × Bytes))
    (paths : List String) (anyImages : Bool) : String :=
  let fallback := "Use the attached files and images as context for this turn."
  let prompt := compactText python (.str prompt) ""
  let blocks := files.filterMap (inlineBlock python)
  let sections := (if blocks = [] then [] else ["\n\n".intercalate blocks]) ++
    if paths = [] then [] else ["Attached local files:\n" ++
      "\n".intercalate (paths.map fun path => "- " ++ directory ++ path)]
  if sections ≠ [] then
    (if prompt = "" then fallback else prompt) ++ "\n\n" ++ "\n\n".intercalate sections
  else if anyImages ∧ prompt = "" then fallback
  else prompt

/-- `_build_turn_input_items`: the images are written first, then the files. -/
def buildTurnInputItems (prompt directory : String) (attachments : List Json) :
    Except Unit Turn := do
  let images ← decoded python true attachments
  let files ← decoded python false attachments
  let imageFiles := allot python [] (imageRequests python images)
  let otherFiles := allot python [] (fileRequests python files)
  let inputs := imageInputs python (images.map (·.1.1)) (imageFiles.map (·.1))
  let text := turnPrompt python prompt directory files (otherFiles.map (·.1)) (inputs ≠ [])
  .ok
    { items := (if text = "" then [] else [.text text]) ++ inputs
      written := imageFiles ++ otherFiles }

/-! ## One to one -/

/-- An item stands for an image: a file with its bytes or, where it has none, its data URL. -/
def Carries (turn : Turn) (image : (Json × Nat) × Bytes) (item : InputItem) : Prop :=
  if image.2 = [] then
    item = .image (dataUrl python image.1.1) ∧ dataUrl python image.1.1 ≠ ""
  else ∃ name, item = .localImage name ∧ turn.content name = some image.2

/-- The turn has each image once and in order, and its files are different ones that hold the
bytes of the attachments they were written for. -/
structure OneToOne (images files : List ((Json × Nat) × Bytes)) (turn : Turn) : Prop where
  carried : List.Forall₂ (Carries python turn) images (turn.items.filter InputItem.isImage)
  distinct : (turn.written.map Prod.fst).Nodup
  kept : List.Forall₂ (fun request file => turn.content file.1 = some request.payload)
    (imageRequests python images ++ fileRequests python files) turn.written

def ReachTurn (prompt directory : String) (attachments : List Json) : Prop :=
  ∃ images files turn, decoded python true attachments = .ok images ∧
    decoded python false attachments = .ok files ∧
    buildTurnInputItems python prompt directory attachments = .ok turn ∧
    OneToOne python images files turn

/-- The images with bytes come first, each of the others has a data URL, and no name goes to an
image and to another attachment. -/
structure Plain (images files : List ((Json × Nat) × Bytes)) : Prop where
  bytesFirst : images.Pairwise fun before after => after.2 ≠ [] → before.2 ≠ []
  urls : ∀ image ∈ images, image.2 = [] → dataUrl python image.1.1 ≠ ""
  apart : ∀ name ∈ (allot python [] (imageRequests python images)).map Prod.fst,
    name ∉ (allot python [] (fileRequests python files)).map Prod.fst

section
variable {python} {images files : List ((Json × Nat) × Bytes)} {used : List String}
  {requests : List Request} {turn : Turn}

theorem allot_fresh : (∀ name ∈ (allot python used requests).map Prod.fst,
      python.lower name ∉ used) ∧ ((allot python used requests).map Prod.fst).Nodup := by
  induction requests generalizing used with
  | nil => simp [allot]
  | cons request rest ih =>
      have hfree : python.lower (nameFor python used request) ∉ used :=
        key_firstFree (python.numbered request.stem request.suffix)
      obtain ⟨hothers, hnodup⟩ := @ih (python.lower (nameFor python used request) :: used)
      rw [allot, List.map_cons, List.nodup_cons, List.forall_mem_cons]
      refine ⟨⟨hfree, ?_⟩, ?_, hnodup⟩
      · intro name hname hused
        exact hothers name hname (List.mem_cons_of_mem _ hused)
      · intro hagain
        exact hothers _ hagain List.mem_cons_self

theorem allot_payloads :
    List.Forall₂ (fun request file => file.2 = request.payload) requests
      (allot python used requests) := by
  induction requests generalizing used with
  | nil => exact .nil
  | cons request rest ih => exact .cons rfl ih

theorem content_of_mem (hdistinct : (turn.written.map Prod.fst).Nodup) {file : String × Bytes}
    (hfile : file ∈ turn.written) : turn.content file.1 = some file.2 := by
  apply Dict.lookup_of_mem
  · rw [List.map_reverse]
    exact List.nodup_reverse.mpr hdistinct
  · exact List.mem_reverse.mpr hfile

theorem kept_of_payloads (hdistinct : (turn.written.map Prod.fst).Nodup)
    {written : List (String × Bytes)} (hwritten : ∀ file ∈ written, file ∈ turn.written)
    (hpayloads : List.Forall₂ (fun request file => file.2 = request.payload) requests written) :
    List.Forall₂ (fun request file => turn.content file.1 = some request.payload)
      requests written := by
  induction hpayloads with
  | nil => exact .nil
  | cons hfirst _ ih =>
      have hcontent := content_of_mem hdistinct (hwritten _ List.mem_cons_self)
      rw [hfirst] at hcontent
      exact .cons hcontent (ih fun file hfile => hwritten file (List.mem_cons_of_mem _ hfile))

theorem isImage_of_mem_imageInputs {attachments : List Json} {paths : List String}
    {item : InputItem} (hitem : item ∈ imageInputs python attachments paths) :
    item.isImage = true := by
  induction attachments generalizing paths with
  | nil => cases hitem
  | cons attachment rest ih =>
      cases paths with
      | cons =>
          rcases List.mem_cons.mp hitem with hhead | htail
          · rw [hhead]
            rfl
          · exact ih htail
      | nil =>
          rcases List.mem_append.mp hitem with hurl | htail
          · split at hurl
            · cases hurl
            · rw [List.mem_singleton.mp hurl]
              rfl
          · exact ih htail

theorem length_imageInputs_le (attachments : List Json) (paths : List String) :
    (imageInputs python attachments paths).length ≤ attachments.length := by
  induction attachments generalizing paths with
  | nil => simp [imageInputs]
  | cons attachment rest ih =>
      cases paths with
      | cons path paths => simpa [imageInputs] using ih paths
      | nil =>
          have hrest := ih []
          rw [imageInputs, List.length_append, List.length_cons]
          split <;> simp <;> omega

theorem imageRequests_eq_nil_iff : imageRequests python images = [] ↔
    ∀ image ∈ images, image.2 = [] := by
  simp [imageRequests]

/-- Where the files hold their bytes, the walk over images and paths is right exactly where the
images with bytes come first and the others have data URLs. -/
theorem carried_iff {written : List (String × Bytes)}
    (hkept : List.Forall₂ (fun request file => turn.content file.1 = some request.payload)
      (imageRequests python images) written) :
    List.Forall₂ (Carries python turn) images
        (imageInputs python (images.map (·.1.1)) (written.map Prod.fst)) ↔
      (images.Pairwise fun before after => after.2 ≠ [] → before.2 ≠ []) ∧
        ∀ image ∈ images, image.2 = [] → dataUrl python image.1.1 ≠ "" := by
  induction images generalizing written with
  | nil => simp [imageInputs]
  | cons image rest ih =>
      rw [List.pairwise_cons, List.forall_mem_cons, List.map_cons]
      by_cases hbytes : image.2 = []
      · have hsame : imageRequests python (image :: rest) = imageRequests python rest := by
          simp [imageRequests, hbytes]
        rw [hsame] at hkept
        cases written with
        | nil =>
            have hnone : ∀ other ∈ rest, other.2 = [] :=
              imageRequests_eq_nil_iff.1 (List.forall₂_nil_right_iff.mp hkept)
            have hrest := ih hkept
            rw [List.map_nil] at hrest ⊢
            by_cases hurl : dataUrl python image.1.1 = ""
            · -- the image is dropped, so there are fewer items than images
              simp only [imageInputs, hurl, if_true, List.nil_append]
              constructor
              · intro hcarried
                have hlength := hcarried.length_eq
                have hle := @length_imageInputs_le python (rest.map (·.1.1)) []
                simp only [List.length_cons, List.length_map] at hlength hle
                omega
              · intro hright
                exact absurd rfl (hright.2.1 hbytes)
            · simp only [imageInputs, hurl, if_false, List.singleton_append, List.forall₂_cons,
                hrest, Carries, hbytes, if_true]
              constructor
              · intro ⟨_, hpairs, hurls⟩
                exact ⟨⟨fun other hother hsome => absurd (hnone other hother) hsome, hpairs⟩,
                  fun _ => hurl, hurls⟩
              · intro ⟨⟨_, hpairs⟩, _, hurls⟩
                exact ⟨⟨trivial, hurl⟩, hpairs, hurls⟩
        | cons =>
            -- the image takes the path of a later one
            constructor
            · intro hcarried
              have hfirst := (List.forall₂_cons.mp hcarried).1
              rw [Carries, if_pos hbytes] at hfirst
              cases hfirst.1
            · intro hright
              have hsome : imageRequests python rest ≠ [] := by
                intro hnone
                rw [hnone] at hkept
                cases hkept
              have hall : ∀ other ∈ rest, other.2 = [] := by
                intro other hother
                by_contra hother'
                exact hright.1.1 other hother hother' hbytes
              exact absurd (imageRequests_eq_nil_iff.2 hall) hsome
      · have hsplit : imageRequests python (image :: rest) =
            imageRequest python image.1.1 image.1.2 image.2 :: imageRequests python rest := by
          simp [imageRequests, hbytes]
        rw [hsplit] at hkept
        obtain ⟨file, others, hfile, hothers, rfl⟩ := List.forall₂_cons_left_iff.mp hkept
        have hcarries : Carries python turn image (.localImage file.1) := by
          rw [Carries, if_neg hbytes]
          exact ⟨file.1, rfl, hfile⟩
        simp only [List.map_cons, imageInputs, List.forall₂_cons, hcarries, true_and, ih hothers]
        constructor
        · intro ⟨hpairs, hurls⟩
          exact ⟨⟨fun _ _ _ => hbytes, hpairs⟩, fun hnone => absurd hnone hbytes, hurls⟩
        · intro ⟨⟨_, hpairs⟩, _, hurls⟩
          exact ⟨hpairs, hurls⟩

/-- What is written for the turn, in order. -/
def filesOf (python : Library) (images files : List ((Json × Nat) × Bytes)) :
    List (String × Bytes) :=
  allot python [] (imageRequests python images) ++ allot python [] (fileRequests python files)

theorem nodup_filesOf_iff : ((filesOf python images files).map Prod.fst).Nodup ↔
    ∀ name ∈ (allot python [] (imageRequests python images)).map Prod.fst,
      name ∉ (allot python [] (fileRequests python files)).map Prod.fst := by
  rw [filesOf, List.map_append, List.nodup_append]
  constructor
  · intro hdistinct name hname hagain
    exact hdistinct.2.2 name hname name hagain rfl
  · intro hapart
    refine ⟨allot_fresh.2, allot_fresh.2, ?_⟩
    intro name hname other hother hsame
    rw [hsame] at hname
    exact hapart other hname hother

theorem oneToOne_iff (hwritten : turn.written = filesOf python images files)
    (hitems : turn.items.filter InputItem.isImage = imageInputs python (images.map (·.1.1))
      ((allot python [] (imageRequests python images)).map Prod.fst)) :
    OneToOne python images files turn ↔ Plain python images files := by
  have hkept (hdistinct : (turn.written.map Prod.fst).Nodup) :
      List.Forall₂ (fun request file => turn.content file.1 = some request.payload)
        (imageRequests python images ++ fileRequests python files) turn.written := by
    apply kept_of_payloads hdistinct (fun _ hfile => hfile)
    rw [hwritten]
    exact List.rel_append allot_payloads allot_payloads
  have hcarried (hdistinct : (turn.written.map Prod.fst).Nodup) :=
    @carried_iff python images turn _ (kept_of_payloads hdistinct
      (fun file hfile => hwritten ▸ List.mem_append_left _ hfile) allot_payloads)
  constructor
  · intro hone
    have hplain := (hcarried hone.distinct).mp (hitems ▸ hone.carried)
    have hdistinct := hone.distinct
    rw [hwritten] at hdistinct
    exact ⟨hplain.1, hplain.2, nodup_filesOf_iff.1 hdistinct⟩
  · intro hplain
    have hdistinct : (turn.written.map Prod.fst).Nodup := by
      rw [hwritten]
      exact nodup_filesOf_iff.2 hplain.apart
    refine ⟨?_, hdistinct, hkept hdistinct⟩
    rw [hitems]
    exact (hcarried hdistinct).mpr ⟨hplain.bytesFirst, hplain.urls⟩

theorem exists_turn {prompt directory : String} {attachments : List Json}
    (himages : decoded python true attachments = .ok images)
    (hfiles : decoded python false attachments = .ok files) :
    ∃ turn, buildTurnInputItems python prompt directory attachments = .ok turn ∧
      (OneToOne python images files turn ↔ Plain python images files) := by
  simp only [buildTurnInputItems, himages, hfiles, bind_eq_ok, Except.ok.injEq, exists_eq_left']
  refine oneToOne_iff rfl ?_
  dsimp only
  rw [List.filter_append, List.filter_eq_self.mpr (fun _ => isImage_of_mem_imageInputs)]
  split <;> rfl

end

theorem reachTurn_iff (prompt directory : String) (attachments : List Json) :
    ReachTurn python prompt directory attachments ↔
      ∃ images files, decoded python true attachments = .ok images ∧
        decoded python false attachments = .ok files ∧ Plain python images files := by
  constructor
  · intro ⟨images, files, turn, himages, hfiles, hturn, hone⟩
    obtain ⟨turn', hturn', hiff⟩ := @exists_turn _ _ _ prompt directory _ himages hfiles
    obtain rfl : turn = turn' := Except.ok.inj (hturn.symm.trans hturn')
    exact ⟨images, files, himages, hfiles, hiff.mp hone⟩
  · intro ⟨images, files, himages, hfiles, hplain⟩
    obtain ⟨turn, hturn, hiff⟩ := @exists_turn _ _ _ prompt directory _ himages hfiles
    exact ⟨images, files, turn, himages, hfiles, hturn, hiff.mpr hplain⟩

end

/-! ## A picture from elsewhere before one with its bytes -/

def linked : Json := .obj [("kind", .str "image"), ("dataUrl", .str "https://a/b.png")]

def pasted : Json :=
  .obj [("kind", .str "image"), ("name", .str "c.png"), ("bytesBase64", .str "AQ==")]

def plainLibrary : Library where
  render := fun _ => ""
  loads := fun _ => none
  fromisoformat := fun _ => .invalid
  lower := id
  name := id
  stem := fun text => String.ofList (text.toList.takeWhile (· ≠ '.'))
  suffix := fun text => String.ofList (text.toList.dropWhile (· ≠ '.'))
  b64decode := fun _ => some [1]
  decode := fun _ => ""
  numbered := by
    intro start stop i j hsame
    have hdigits : toString i = toString j := by
      simpa [String.ext_iff] using hsame
    exact Numerals.repr_inj hdigits

theorem linked_picture_takes_the_next_file :
    ¬ReachTurn plainLibrary "" "" [linked, pasted] := by
  intro ⟨images, files, turn, himages, hfiles, hturn, hone⟩
  have hdecoded : decoded plainLibrary true [linked, pasted] =
      .ok [((linked, 1), []), ((pasted, 2), [1])] := by rfl
  have hsame : images = _ := Except.ok.inj (himages.symm.trans hdecoded)
  obtain ⟨turn', hturn', hiff⟩ := @exists_turn _ _ _ "" "" _ himages hfiles
  obtain rfl : turn = turn' := Except.ok.inj (hturn.symm.trans hturn')
  have hpairs := (hiff.mp hone).bytesFirst
  rw [hsame, List.pairwise_pair] at hpairs
  exact hpairs (List.cons_ne_nil _ _) rfl

end OpsCure.Attachments
