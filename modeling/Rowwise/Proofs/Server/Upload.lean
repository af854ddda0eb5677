import Mathlib
import Rowwise.Proofs.Job.Agreement
import Rowwise.Proofs.Job.Document
import Rowwise.Proofs.Text.Encoding
import Rowwise.Server.Router

/-!
# Server — Uploads

An upload held against the posting of its text. The main statement is that the order of the fields
of an upload does not count, and that the answer tells what the answer to the posted job tells.

A form is folded from its fields, and a bad separator ends the fold. If no two fields play one
`Role`, each step of the fold sets what no other step sets, so the form is what can be looked up in
the fields by their roles (`Form.ofFields_of_unrepeated`), and looking up does not depend on the
order (`field?_perm`). Past the form both ways run the same job; for a pattern that draws no random
numbers its outcome is settled whatever the cache holds (`exists_runJob`).
-/

namespace Rowwise.Server

/-! ## Fields by their roles -/

/-- What a field of an upload is for. -/
inductive Role
  | file
  | pattern
  | separator
  | header
  deriving DecidableEq

/-- The role of a field, by its name. Two names stand for the separator; other names for nothing. -/
def Field.role? (field : Field) : Option Role :=
  [("file".toList, Role.file), ("pattern".toList, .pattern), ("separator".toList, .separator),
    ("separatorKind".toList, .separator), ("hasHeaderRow".toList, .header)].lookup field.name

/-- No two fields play one role. Fields without a role can be there any number of times. -/
def Unrepeated (fields : List Field) : Prop :=
  fields.Pairwise fun a b => a.role? = b.role? → a.role? = none

theorem Unrepeated.perm {fields others : List Field} (h : Unrepeated fields)
    (hperm : others.Perm fields) : Unrepeated others := by
  refine (hperm.pairwise_iff ?_).mpr h
  intro a b hab hba
  rw [hba]
  exact hab hba.symm

/-- The field of a role. -/
def field? (role : Role) (fields : List Field) : Option Field :=
  fields.find? fun field => field.role? = some role

theorem field?_cons (role : Role) (field : Field) (fields : List Field) :
    field? role (field :: fields)
      = if field.role? = some role then some field else field? role fields := by
  rw [field?, List.find?_cons]
  by_cases h : field.role? = some role
  · simp [h]
  · simp [h, field?]

/-- No field after a field of an upload plays the same role. -/
theorem field?_eq_none {role : Role} {field : Field} {fields : List Field}
    (h : Unrepeated (field :: fields)) (hrole : field.role? = some role) :
    field? role fields = none := by
  rw [field?, List.find?_eq_none]
  intro other hmem hother
  have := (List.pairwise_cons.mp h).1 other hmem (hrole.trans (of_decide_eq_true hother).symm)
  rw [hrole] at this
  cases this

/-- Every field of an upload that plays a role is the one that is looked up by that role. -/
theorem field?_eq_some {role : Role} {fields : List Field} (h : Unrepeated fields)
    {field : Field} (hmem : field ∈ fields) (hrole : field.role? = some role) :
    field? role fields = some field := by
  induction fields with
  | nil => exact absurd hmem (by simp)
  | cons first rest ih =>
    rw [field?_cons]
    rcases List.mem_cons.mp hmem with rfl | hmem
    · exact if_pos hrole
    · have hrest : field? role rest = some field := ih (List.pairwise_cons.mp h).2 hmem
      rw [if_neg ?_]
      · exact hrest
      · intro hfirst
        rw [field?_eq_none h hfirst] at hrest
        cases hrest

/-- **Looking up** a field by its role does not depend on the order of the fields. -/
theorem field?_perm {fields others : List Field} (h : Unrepeated fields)
    (hperm : others.Perm fields) (role : Role) : field? role others = field? role fields := by
  cases hfound : field? role others with
  | some field =>
    have hmem := hperm.mem_iff.mp (List.mem_of_find?_eq_some hfound)
    have hrole := List.find?_some hfound
    exact (field?_eq_some h hmem (of_decide_eq_true hrole)).symm
  | none =>
    symm
    rw [field?, List.find?_eq_none] at hfound ⊢
    intro field hmem
    exact hfound field (hperm.mem_iff.mpr hmem)

/-! ## Forms -/

variable (decoders : Charset.Decoders)

/-- The separator that a text in a form asks for: none if it is blank or `auto`. -/
def separatorOfText (text : Text) : Except UnknownSeparator (Option Separator) :=
  let name := Text.trim text
  if name.isEmpty || name = "auto".toList then .ok none else (Separator.parse name).map some

/-- The separator that the fields of an upload ask for. -/
def separatorOf (fields : List Field) : Except UnknownSeparator (Option Separator) :=
  match field? .separator fields with
  | none => .ok none
  | some field => separatorOfText (field.text decoders)

/-- The file of an upload. -/
def fileOf (fields : List Field) : Option Bytes :=
  (field? .file fields).map Field.content

/-- The pattern of an upload. -/
def patternOf (fields : List Field) : Text :=
  ((field? .pattern fields).map (Field.text decoders)).getD []

/-- Whether the first row of an upload names columns. -/
def hasHeaderOf (fields : List Field) : Bool :=
  ((field? .header fields).map fun field => isYes (field.text decoders)).getD false

namespace Form

theorem take_eq (form : Form) (field : Field) :
    form.take decoders field = match field.role? with
      | some .file => .ok { form with file := some field.content, fileName := field.fileName }
      | some .pattern => .ok { form with pattern := field.text decoders }
      | some .separator => form.takeSeparator (field.text decoders)
      | some .header => .ok { form with hasHeader := isYes (field.text decoders) }
      | none => .ok form := by
  obtain ⟨name, fileName, content, charset⟩ := field
  rw [take, Field.role?]
  by_cases hfile : name = "file".toList
  · subst hfile
    rfl
  by_cases hpattern : name = "pattern".toList
  · subst hpattern
    rfl
  by_cases hseparator : name = "separator".toList
  · subst hseparator
    rfl
  by_cases hkind : name = "separatorKind".toList
  · subst hkind
    rfl
  by_cases hheader : name = "hasHeaderRow".toList
  · subst hheader
    rfl
  · simp only [List.lookup, beq_false_of_ne hfile, beq_false_of_ne hpattern,
      beq_false_of_ne hseparator, beq_false_of_ne hkind, beq_false_of_ne hheader, hfile, hpattern,
      hseparator, hkind, hheader, if_false, decide_false, Bool.or_self, Bool.false_eq_true]

theorem takeSeparator_eq (form : Form) (text : Text) :
    form.takeSeparator text = (separatorOfText text).map fun separator =>
      { form with separator := separator.or form.separator } := by
  rw [takeSeparator, separatorOfText]
  split
  · rfl
  · cases Separator.parse (Text.trim text) with
    | error e => rfl
    | ok kind => rfl

/-- A form with what some fields hold; the separator that they ask for is already known. -/
def fill (form : Form) (fields : List Field) (separator : Option Separator) : Form where
  file := (fileOf fields).or form.file
  fileName := ((field? .file fields).map Field.fileName).getD form.fileName
  pattern := ((field? .pattern fields).map (Field.text decoders)).getD form.pattern
  separator := separator.or form.separator
  hasHeader :=
    ((field? .header fields).map fun field => isYes (field.text decoders)).getD form.hasHeader

/-- **The fold over fields without repetition** sets what can be looked up in them. -/
theorem foldlM_take {fields : List Field} (h : Unrepeated fields) (form : Form) :
    fields.foldlM (take decoders) form
      = (separatorOf decoders fields).map (form.fill decoders fields) := by
  induction fields generalizing form with
  | nil => rfl
  | cons field rest ih =>
    have hrest : Unrepeated rest := (List.pairwise_cons.mp h).2
    rw [List.foldlM_cons, take_eq]
    by_cases hrole : field.role? = some .separator
    · have hnone : separatorOf decoders rest = .ok none := by
        rw [separatorOf, field?_eq_none h hrole]
      have hfirst : separatorOf decoders (field :: rest)
          = separatorOfText (field.text decoders) := by
        rw [separatorOf, field?_cons, if_pos hrole]
      rw [hfirst, hrole]
      dsimp only
      rw [takeSeparator_eq]
      cases separatorOfText (field.text decoders) with
      | error e => rfl
      | ok separator =>
        simp [Except.map, Json.ok_bind, ih hrest, hnone, fill, fileOf, field?_cons, hrole]
    · have hsame : separatorOf decoders (field :: rest) = separatorOf decoders rest := by
        rw [separatorOf, field?_cons, if_neg hrole, separatorOf]
      rw [hsame]
      -- the role of the field is free in the rest, and the rest decides on all other roles
      have hfill : ∀ next : Form, next.fill decoders rest = form.fill decoders (field :: rest) →
          (Except.ok next >>= fun form => rest.foldlM (take decoders) form)
            = (separatorOf decoders rest).map (form.fill decoders (field :: rest)) := by
        intro next hnext
        rw [Json.ok_bind, ih hrest, hnext]
      cases hother : field.role? with
      | none =>
        apply hfill
        funext separator
        simp [fill, fileOf, field?_cons, hother]
      | some role =>
        have hfree := field?_eq_none h hother
        cases role with
        | separator => exact absurd hother hrole
        | file =>
          apply hfill
          funext separator
          simp [fill, fileOf, field?_cons, hother, hfree]
        | pattern =>
          apply hfill
          funext separator
          simp [fill, fileOf, field?_cons, hother, hfree]
        | header =>
          apply hfill
          funext separator
          simp [fill, fileOf, field?_cons, hother, hfree]

/-- **The form of an upload** is what can be looked up in its fields. -/
theorem ofFields_of_unrepeated {fields : List Field} (h : Unrepeated fields) :
    ofFields decoders fields = (separatorOf decoders fields).map (empty.fill decoders fields) :=
  foldlM_take decoders h empty

/-- The order of the fields does not count. -/
theorem ofFields_perm {fields others : List Field} (h : Unrepeated fields)
    (hperm : others.Perm fields) : ofFields decoders others = ofFields decoders fields := by
  have hfield := field?_perm h hperm
  have hseparator : separatorOf decoders others = separatorOf decoders fields := by
    rw [separatorOf, separatorOf, hfield]
  have hfill : empty.fill decoders others = empty.fill decoders fields := by
    funext separator
    simp only [fill, fileOf, hfield]
  rw [ofFields_of_unrepeated decoders (h.perm hperm), ofFields_of_unrepeated decoders h,
    hseparator, hfill]

end Form

/-! ## Jobs with the cache of a server -/

theorem runJob_of_incomplete {request : Job.Request} (h : ¬ request.isComplete) (state : State)
    (answer : Job.Outcome → Draws → Json × Draws) :
    (runJob state request answer).1 = .noContent := by
  rw [runJob, Job.runOnWorker, Job.run_of_incomplete h]
  rfl

/-- **A job has one outcome** for a pattern that draws no random numbers, whatever server it is
given to and whatever answer is made from the outcome. -/
theorem exists_runJob {request : Job.Request} (hcomplete : request.isComplete)
    (hdeterministic : (Prepared.ofProgram (Pattern.compile request.pattern)).isDeterministic) :
    ∃ outcome, ∀ (state : State), Job.Reached state.cache →
      ∀ answer, ∃ draws, (runJob state request answer).1 = .ofJson 200 (answer outcome draws).1 := by
  obtain ⟨outcome, hexecute, -, -⟩ := Job.execute_of_deterministic hdeterministic .default
  refine ⟨outcome, fun state hcache answer => ⟨state.draws, ?_⟩⟩
  have hprogram : (Job.prepare request.pattern .default (some state.cache)).1
      = .ofProgram (Pattern.compile request.pattern) := by
    refine Job.prepare_program ?_ request.pattern
    rintro - given ⟨⟩
    exact hcache.faithful
  rw [runJob, Job.runOnWorker, Job.run_of_complete hcomplete, hprogram, hexecute]
  rfl

/-! ## Posting -/

/-- The answer to a job that is posted. -/
def renderJob (state : State) (request : Job.Request) : Response × State :=
  runJob state request fun outcome draws => (outcome.toJson, draws)

/-- A request posts a job: its body is JSON, not too long, and reads as the job. -/
structure Posts (http : HttpRequest) (request : Job.Request) : Prop where
  json : (contentType? http).any MediaType.isJson
  limit : http.body.length ≤ bodyLimit
  read : Job.Request.ofDocument (bodyText http.body) = .ok request

theorem render_of_posts {http : HttpRequest} {request : Job.Request} (h : Posts http request)
    (state : State) : render state http = renderJob state request := by
  rw [render, h.json, h.read]
  simp only [Bool.not_true, Bool.false_eq_true, if_false, Nat.not_lt.mpr h.limit]
  rfl

/-- The request that posts a job as a document. -/
def posting (request : Job.Request) : HttpRequest :=
  ⟨"POST", "/api/render".toList, [("content-type".toList, Multipart.ascii "application/json")],
    Utf8.encode (Json.pretty request.toJson)⟩

theorem bodyText_encode (text : Text) : bodyText (Utf8.encode text) = text := by
  rw [bodyText, Utf8.items_encode, List.map_map]
  exact List.map_id' text

/-- **Every job can be posted**, if its document is short enough. -/
theorem posts_posting {request : Job.Request} (h : (posting request).body.length ≤ bodyLimit) :
    Posts (posting request) request where
  json := by
    have htype : contentType? (posting request)
        = MediaType.ofText? "application/json".toList := rfl
    rw [htype]
    decide +kernel
  limit := h
  read := by
    rw [posting, bodyText_encode]
    exact Job.Request.ofDocument_pretty request

/-! ## Uploading -/

/-- A request uploads some fields: its body is not too long, and all of it reads as the fields. -/
def Uploads (http : HttpRequest) (fields : List Field) : Prop :=
  ∃ boundary, (contentType? http).bind MediaType.boundary? = some boundary ∧
    http.body.length ≤ bodyLimit ∧ Multipart.ofBody boundary http.body = ⟨fields, none⟩

theorem renderUpload_of_uploads {http : HttpRequest} {fields : List Field}
    (h : Uploads http fields) (state : State) :
    renderUpload decoders state http = renderParts decoders state ⟨fields, none⟩ := by
  obtain ⟨boundary, hboundary, hlimit, hfields⟩ := h
  rw [renderUpload, hboundary]
  dsimp only
  rw [if_neg (Nat.not_lt.mpr hlimit), hfields]

/-- What is answered to an upload. -/
inductive Verdict
  | refused
  | nothing
  | rendered (request : Job.Request)
  deriving DecidableEq

/-- The verdict on an upload: a bad separator counts first, then that there is no file, then that
its bytes are malformed, then that there is no text or no pattern. Else a job is rendered. -/
def verdict (fields : List Field) : Verdict :=
  match separatorOf decoders fields with
  | .error _ => .refused
  | .ok separator =>
    match fileOf fields with
    | none => .nothing
    | some bytes =>
      match Charset.read decoders bytes with
      | .error _ => .refused
      | .ok decoded =>
        if decoded.text = [] ∨ patternOf decoders fields = [] then .nothing
        else .rendered ⟨decoded.text, patternOf decoders fields,
          separator.getD (Separator.detect decoded.text), hasHeaderOf decoders fields⟩

/-- Whether a response is as a verdict has it. A rendered job is answered with what every server
answers to the posted job, after four fields that tell about the upload. -/
def Verdict.Fits (verdict : Verdict) (response : Response) : Prop :=
  match verdict with
  | refused => response.status = 400
  | nothing => response.status = 204
  | rendered request =>
    ∃ about hasHeader text,
      about.map Prod.fst = ["jobId", "fileName", "encoding", "separatorKind"] ∧
      response = .ofJson 200 (.record (about ++
        [("hasHeaderRow", .bool hasHeader), ("renderedText", .string text)])) ∧
      ∀ other : State, Job.Reached other.cache →
        (renderJob other request).1 = .ofJson 200 (.record
          [("hasHeaderRow", .bool hasHeader), ("renderedText", .string text)]) ∧
        ∀ http, Posts http request → (render other http).1 = (renderJob other request).1

/-- Where an encoding is detected, only decoding can fail. -/
theorem read_of_detect {bytes : Bytes} {encoding : String}
    (h : Charset.detect bytes = .ok encoding) :
    Charset.read decoders bytes = ((Charset.decode decoders bytes encoding.toList).mapError
      .decoding).map (⟨encoding, ·⟩) := by
  rw [Charset.read, Charset.encodingOf, h]
  simp only [Except.mapError, Json.ok_bind, Charset.decodeAs]
  cases Charset.decode decoders bytes encoding.toList with
  | error error => rfl
  | ok text => rfl

/-- **A job from an upload** is answered with what it is answered with when it is posted. -/
theorem fits_runJob {request : Job.Request} (hcomplete : request.isComplete)
    (hdeterministic : (Prepared.ofProgram (Pattern.compile request.pattern)).isDeterministic)
    {state : State} (hcache : Job.Reached state.cache) (form : Form) (encoding : String) :
    (Verdict.rendered request).Fits
      (runJob state request (uploadBody form ⟨encoding, request⟩)).1 := by
  obtain ⟨outcome, hrun⟩ := exists_runJob hcomplete hdeterministic
  obtain ⟨draws, hupload⟩ := hrun state hcache (uploadBody form ⟨encoding, request⟩)
  refine ⟨_, outcome.hasHeader, outcome.report.text, ?_, hupload, ?_⟩
  · rfl
  · intro other hother
    obtain ⟨drawn, hposted⟩ := hrun other hother fun outcome draws => (outcome.toJson, draws)
    exact ⟨hposted, fun http hposts => by rw [render_of_posts hposts]⟩

/-- The form of an upload is answered by the verdict, if its separator is known. -/
theorem fits_renderForm {fields : List Field} {separator : Option Separator} {state : State}
    (hseparator : separatorOf decoders fields = .ok separator)
    (hdetect : ∀ bytes ∈ fileOf fields, ∃ encoding, Charset.detect bytes = .ok encoding)
    (hdeterministic :
      (Prepared.ofProgram (Pattern.compile (patternOf decoders fields))).isDeterministic)
    (hcache : Job.Reached state.cache) :
    ∃ response,
      (renderForm decoders state (Form.empty.fill decoders fields separator)).1 = some response ∧
      (verdict decoders fields).Fits response := by
  rw [verdict, hseparator]
  dsimp only
  have hform : (Form.empty.fill decoders fields separator).file = fileOf fields := Option.or_none
  have hchosen : (Form.empty.fill decoders fields separator).separator = separator := Option.or_none
  cases hfile : fileOf fields with
  | none =>
    rw [renderForm, hform, hfile]
    exact ⟨.noContent, rfl, rfl⟩
  | some bytes =>
    rw [renderForm, hform, hfile]
    dsimp only
    obtain ⟨encoding, hencoding⟩ := hdetect bytes hfile
    rw [Upload.ofBytes, read_of_detect decoders hencoding]
    cases Charset.decode decoders bytes encoding.toList with
    | error error => exact ⟨_, rfl, rfl⟩
    | ok text =>
      simp only [Except.mapError, Except.map, Json.ok_bind, hchosen]
      refine ⟨_, rfl, ?_⟩
      by_cases hempty : text = [] ∨ patternOf decoders fields = []
      · rw [if_pos hempty, runJob_of_incomplete]
        · rfl
        · rw [Job.isComplete_iff, not_not]
          exact hempty
      · rw [if_neg hempty]
        have hcomplete : Job.Request.isComplete ⟨text, patternOf decoders fields,
            separator.getD (Separator.detect text), hasHeaderOf decoders fields⟩ :=
          Job.isComplete_iff.mpr hempty
        refine fits_runJob hcomplete hdeterministic ?_ _ _
        -- telling the log leaves the cache as it is
        exact hcache

/-- **Uploading a file is posting its text.** Of an upload in which no role is played twice, whose
pattern draws no random numbers and whose file shows its encoding, the order of the fields does
not count, and the answer is what the verdict says. If a job is rendered, that is the same text,
under the same flag, that any server answers to the posted job, whatever is in its cache. -/
theorem upload_eq_posting {fields others : List Field} {state : State}
    (hunrepeated : Unrepeated fields)
    (hdetect : ∀ bytes ∈ fileOf fields, ∃ encoding, Charset.detect bytes = .ok encoding)
    (hdeterministic :
      (Prepared.ofProgram (Pattern.compile (patternOf decoders fields))).isDeterministic)
    (hcache : Job.Reached state.cache) (hperm : others.Perm fields) :
    renderParts decoders state ⟨others, none⟩ = renderParts decoders state ⟨fields, none⟩ ∧
      (∀ http, Uploads http others →
        renderUpload decoders state http = renderParts decoders state ⟨fields, none⟩) ∧
      ∃ response, (renderParts decoders state ⟨others, none⟩).1 = some response ∧
        (verdict decoders fields).Fits response := by
  have hsame :
      renderParts decoders state ⟨others, none⟩ = renderParts decoders state ⟨fields, none⟩ := by
    rw [renderParts, renderParts, Form.ofFields_perm decoders hunrepeated hperm]
  refine ⟨hsame, ?_, ?_⟩
  · intro http huploads
    rw [renderUpload_of_uploads decoders huploads, hsame]
  · rw [hsame, renderParts, Form.ofFields_of_unrepeated decoders hunrepeated]
    cases hseparator : separatorOf decoders fields with
    | error error =>
      rw [verdict, hseparator]
      exact ⟨_, rfl, rfl⟩
    | ok separator => exact fits_renderForm decoders hseparator hdetect hdeterministic hcache

/-- An upload of two rows between tabs, with a field that means nothing. -/
def tabbed : List Field :=
  [⟨"note".toList, none, [0xFF], .utf8⟩,
    ⟨"hasHeaderRow".toList, none, Utf8.encode " Yes".toList, .utf8⟩,
    ⟨"separatorKind".toList, none, Utf8.encode " auto ".toList, .utf8⟩,
    ⟨"file".toList, some "t.tsv".toList, Utf8.encode "a\tb\n1\t2".toList, .utf8⟩,
    ⟨"pattern".toList, none, Utf8.encode "$(1)".toList, .utf8⟩]

/-- The job of that upload. -/
def tabbedJob : Job.Request :=
  ⟨"a\tb\n1\t2".toList, "$(1)".toList, .tab, true⟩

theorem upload_eq_posting_tabbed :
    Unrepeated tabbed ∧ verdict .asciiOnly tabbed = .rendered tabbedJob ∧
      ∃ about hasHeader text,
        (renderParts .asciiOnly (.start .default ⟨id, 0⟩) ⟨tabbed.reverse, none⟩).1
          = some (.ofJson 200 (.record (about ++
            [("hasHeaderRow", .bool hasHeader), ("renderedText", .string text)]))) ∧
        (render (.start .default ⟨id, 0⟩) (posting tabbedJob)).1
          = .ofJson 200 (.record
            [("hasHeaderRow", .bool hasHeader), ("renderedText", .string text)]) := by
  have hunrepeated : Unrepeated tabbed := by
    unfold Unrepeated
    decide +kernel
  have hdetect : Charset.detect (Utf8.encode "a\tb\n1\t2".toList) = .ok "utf-8" := by
    decide +kernel
  have hpattern : patternOf .asciiOnly tabbed = "$(1)".toList := by decide +kernel
  have hdeterministic :
      (Prepared.ofProgram (Pattern.compile (patternOf .asciiOnly tabbed))).isDeterministic := by
    rw [hpattern]
    cbv
  have hverdict : verdict .asciiOnly tabbed = .rendered tabbedJob := by decide +kernel
  have hposts : Posts (posting tabbedJob) tabbedJob := posts_posting (by decide +kernel)
  have hcache : Job.Reached (State.start .default ⟨id, 0⟩).cache := .new _
  obtain ⟨-, -, response, hresponse, hfits⟩ :=
    upload_eq_posting .asciiOnly hunrepeated
      (fun bytes hbytes => by cases hbytes; exact ⟨"utf-8", hdetect⟩)
      hdeterministic hcache (List.reverse_perm tabbed)
  rw [hverdict] at hfits
  obtain ⟨about, hasHeader, text, -, rfl, hsame⟩ := hfits
  obtain ⟨hjob, hposted⟩ := hsame _ hcache
  exact ⟨hunrepeated, hverdict, about, hasHeader, text, hresponse, (hposted _ hposts).trans hjob⟩

end Rowwise.Server
