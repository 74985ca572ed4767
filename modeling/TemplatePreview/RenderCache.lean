import TemplatePreview.CachedDownloads
import TemplatePreview.BytesLiteral
import TemplatePreview.Mixtures

/-! Rendered letters and page images are kept in a bucket under a hash of what they
were rendered from, and in the caches of processes. No call can tell. -/
namespace TemplatePreview.RenderCache
open Workers ObjectStore Pdf LetterTasks CachedDownloads BytesLiteral

variable {K σ Process TaskId Message : Type} [DecidableEq Process] [DecidableEq TaskId]

/-- What renders and what keys are made with. `dumps` is `pickle.dumps`, and `sha1`
gives the digest of a text in hexadecimal digits. -/
structure Renderers (K σ : Type) where
  writePdf : String → Bytes
  dumps : Page K σ → Bytes
  convertToPng : Bytes → Bool → Bytes
  sha1 : String → String

/-- What a cached function raises. -/
inductive RenderError where
  | download (error : DownloadError)
  | rendering
  | upload (failure : Failure)
  | library (error : LibraryError)
  | abort (code : Nat) (description : String)
  deriving DecidableEq, Repr

/-- `str` of a truth value. -/
def strOfBool (value : Bool) : String := if value then "True" else "False"

/-- The key of `cache`: its arguments are hashed without anything between them. -/
def cacheKey (sha1 : String → String) (args : List String) (folder extension : String) : String :=
  folder ++ "/" ++ sha1 (String.join args) ++ "." ++ extension

/-- `new_function` of `cache`, for a function that returns these bytes if it
returns. Only a missing object is suppressed. -/
def newFunction (key : String) (rendered : Bytes) : CacheAction Message (Except RenderError MemoryFile) := do
  match ← cachingS3download .letterCache key with
  | .ok file => return .ok file
  | .error (.s3 .objectNotFound) =>
    match ← attempt with
    | false => return .error .rendering
    | true => do
      let data : MemoryFile := { bytes := rendered }
      match ← upload .letterCache key { filedata := data.read.1 } with
      | .error failure => return .error (.upload failure)
      | .ok () => return .ok { bytes := (data.read.2.seek 0).read.1 }
  | .error error => return .error (.download error)

/-- Indexing with a number that counts from the end when it is negative. -/
def getItem (items : List α) (index : Int) : Option α :=
  if 0 ≤ index then items[index.toNat]?
  else if 0 ≤ items.length + index then items[(items.length + index).toNat]?
  else none

/-- `PdfReader(data).pages[page_number - 1]`, with what it aborts with. -/
def selectPage (lib : Libraries K σ) (data : MemoryFile) (pageNumber : Int) : Except RenderError (Page K σ) :=
  match lib.readPages data.bytes with
  | .error (.pdfReadError _) => .error (.abort 400 "Could not read PDF")
  | .error error => .error (.library error)
  | .ok pages =>
    match getItem pages (pageNumber - 1) with
    | none => .error (.abort 400 s!"Letter does not have a page {pageNumber}")
    | some page => .ok page

section Functions
variable (lib : Libraries K σ) (renderers : Renderers K σ)

def pdfKey (html : String) : String := cacheKey renderers.sha1 [html] "templated" "pdf"

def pngKey (serialisedPage : Bytes) (hideNotify : Bool) : String :=
  cacheKey renderers.sha1 [strOfBytes serialisedPage, strOfBool hideNotify] "pngs" "png"

/-- `get_pdf`. -/
def getPdf (html : String) : CacheAction Message (Except RenderError MemoryFile) :=
  newFunction (pdfKey renderers html) (renderers.writePdf html)

/-- `png_from_pdf`. -/
def pngFromPdf (data : MemoryFile) (pageNumber : Int) (hideNotify : Bool) :
    CacheAction Message (Except RenderError MemoryFile) :=
  match selectPage lib data pageNumber with
  | .error error => return .error error
  | .ok page =>
    let serialisedPage := renderers.dumps page
    newFunction (pngKey renderers serialisedPage hideNotify) (renderers.convertToPng serialisedPage hideNotify)

/-- The functions that are cached. -/
inductive RenderJob where
  | getPdf (html : String)
  | pngFromPdf (data : MemoryFile) (pageNumber : Int) (hideNotify : Bool)

def RenderJob.program : RenderJob → CacheAction Message (Except RenderError MemoryFile)
  | .getPdf html => RenderCache.getPdf renderers html
  | .pngFromPdf data pageNumber hideNotify => RenderCache.pngFromPdf lib renderers data pageNumber hideNotify

/-! ## What is rendered without a cache -/

/-- What is rendered by a call: the text of an HTML document, or a page with or
without its tag. -/
inductive Source where
  | document (html : String)
  | page (serialisedPage : Bytes) (hideNotify : Bool)
  deriving DecidableEq

def Source.render : Source → Bytes
  | .document html => renderers.writePdf html
  | .page serialisedPage hideNotify => renderers.convertToPng serialisedPage hideNotify

/-- The text that is hashed. -/
def Source.hashed : Source → String
  | .document html => html
  | .page serialisedPage hideNotify => strOfBytes serialisedPage ++ strOfBool hideNotify

def Source.key : Source → String
  | .document html => pdfKey renderers html
  | .page serialisedPage hideNotify => pngKey renderers serialisedPage hideNotify

/-- What a call renders, unless it aborts before. -/
def RenderJob.source : RenderJob → Except RenderError Source
  | .getPdf html => .ok (.document html)
  | .pngFromPdf data pageNumber hideNotify => do
    return .page (renderers.dumps (← selectPage lib data pageNumber)) hideNotify

/-- A call without a cache. -/
def RenderJob.uncached (job : RenderJob) : Except RenderError MemoryFile := do
  let source ← job.source lib renderers
  return { bytes := source.render renderers }

end Functions

/-! ## Keys -/

section Keys
variable {lib : Libraries K σ} {renderers : Renderers K σ}

private theorem sha1_of_cacheKey {sha1 : String → String} {one other : List String} {folder extension : String}
    (same : cacheKey sha1 one folder extension = cacheKey sha1 other folder extension) :
    sha1 (String.join one) = sha1 (String.join other) := by
  have characters := congrArg String.toList same
  simp only [cacheKey, String.toList_append, List.append_assoc, List.append_cancel_left_eq,
    List.append_cancel_right_eq] at characters
  exact String.toList_injective characters

private theorem pdfKey_ne_pngKey (html : String) (serialisedPage : Bytes) (hideNotify : Bool) :
    pdfKey renderers html ≠ pngKey renderers serialisedPage hideNotify := by
  intro same
  have characters := congrArg String.toList same
  simp [pdfKey, pngKey, cacheKey] at characters

/-- The two truth values are told apart by their last letters but one. -/
private theorem append_strOfBool_inj {left right : String} {one other : Bool}
    (same : left ++ strOfBool one = right ++ strOfBool other) : left = right ∧ one = other := by
  have characters := congrArg (fun text => text.toList.reverse) same
  simp only [String.toList_append, List.reverse_append] at characters
  have equal : one = other := by
    cases one <;> cases other <;> simp [strOfBool] at characters ⊢
  subst equal
  exact ⟨String.toList_injective (List.reverse_injective (List.append_cancel_left characters)), rfl⟩

/-- Sources whose texts do not collide have different keys. -/
theorem key_injective {one other : Source}
    (noCollision : renderers.sha1 (one.hashed) = renderers.sha1 (other.hashed) →
      one.hashed = other.hashed)
    (same : one.key renderers = other.key renderers) : one = other := by
  cases one with
  | document html =>
    cases other with
    | document other =>
      have hashes := sha1_of_cacheKey same
      simp only [String.join_cons, String.join_nil, String.append_empty] at hashes
      exact congrArg Source.document (noCollision hashes)
    | page serialisedPage hideNotify => exact absurd same (pdfKey_ne_pngKey html serialisedPage hideNotify)
  | page serialisedPage hideNotify =>
    cases other with
    | document html => exact absurd same.symm (pdfKey_ne_pngKey html serialisedPage hideNotify)
    | page otherPage otherHide =>
      have hashes := sha1_of_cacheKey same
      simp only [String.join_cons, String.join_nil, String.append_empty] at hashes
      obtain ⟨pages, rfl⟩ := append_strOfBool_inj (noCollision hashes)
      rw [strOfBytes_injective pages]

end Keys

/-! ## Entries -/

/-- Cached objects may expire. -/
def storage : Service (Shared Bucket String S3Object String Process cacheSize) Process
    (Call Bucket String S3Object String Message) Call.Answer :=
  service fun bucket => bucket = .letterCache

section Contract
variable (lib : Libraries K σ) (renderers : Renderers K σ) (calls : RenderJob → Prop)

/-- Some call renders this source. -/
def Rendered (source : Source) : Prop := ∃ job, calls job ∧ job.source lib renderers = .ok source

/-- A call uses its own key only, and writes nothing there but what it renders. It
relies on finding nothing else there. -/
def renderContract (job : RenderJob) : Contract (Call Bucket String S3Object String Message) Call.Answer where
  asks _ call := calls job ∧
    match call with
    | .lookup bucket key | .download bucket key => ∃ source, job.source lib renderers = .ok source ∧
      bucket = .letterCache ∧ key = source.key renderers
    | .remember bucket key text => ∃ source, job.source lib renderers = .ok source ∧
      bucket = .letterCache ∧ key = source.key renderers ∧ text = Base64.b64encode (source.render renderers)
    | .upload bucket key value => ∃ source, job.source lib renderers = .ok source ∧
      bucket = .letterCache ∧ key = source.key renderers ∧ value.filedata = source.render renderers
    | .attempt => True
    | _ => False
  relies
    | .lookup _ key, answer => ∀ source, job.source lib renderers = .ok source → key = source.key renderers →
      ∀ text, answer = some text → text = Base64.b64encode (source.render renderers)
    | .download _ key, answer => ∀ source, job.source lib renderers = .ok source → key = source.key renderers →
      ∀ object, answer = .ok object → object.filedata = source.render renderers
    | _, _ => True

/-- What a call returns is what it would return without a cache. -/
def Transparent (job : RenderJob) (_ : List (Event Bucket String S3Object String Message))
    (result : Except RenderError MemoryFile) : Prop :=
  ∀ file, result = .ok file → job.uncached lib renderers = .ok file

/-- Every entry of the bucket and of a cache was rendered from the source of its
key. -/
structure Held (shared : Shared Bucket String S3Object String Process cacheSize) : Prop where
  store : ∀ key object, shared.store .letterCache key = some object →
    ∃ source, Rendered lib renderers calls source ∧ key = source.key renderers ∧
      object.filedata = source.render renderers
  caches : ∀ process key text, (shared.caches process).lookup (.letterCache, key) = some text →
    ∃ source, Rendered lib renderers calls source ∧ key = source.key renderers ∧
      text = Base64.b64encode (source.render renderers)

end Contract

section Runs
variable {lib : Libraries K σ} {renderers : Renderers K σ} {calls : RenderJob → Prop} {job : RenderJob}
  {shared after : Shared Bucket String S3Object String Process cacheSize}

private theorem program_eq (job : RenderJob) :
    (job.program lib renderers : CacheAction Message (Except RenderError MemoryFile)) =
      match job.source lib renderers with
      | .error error => return .error error
      | .ok source => newFunction (source.key renderers) (source.render renderers) := by
  cases job with
  | getPdf html => rfl
  | pngFromPdf data pageNumber hideNotify =>
    rw [RenderJob.program, pngFromPdf, RenderJob.source]
    cases selectPage lib data pageNumber <;> rfl

private theorem uncached_eq {source : Source} (found : job.source lib renderers = .ok source) :
    job.uncached lib renderers = .ok { bytes := source.render renderers } := by
  rw [RenderJob.uncached, found]
  rfl

/-- Every call keeps to its contract. -/
theorem program_keeps (member : calls job) :
    (renderContract lib renderers calls job).Keeps (Transparent lib renderers job) []
      (job.program lib renderers : CacheAction Message (Except RenderError MemoryFile)) := by
  rw [program_eq]
  cases found : job.source lib renderers with
  | error error => rintro file ⟨⟩
  | ok source =>
    have uncached := uncached_eq found
    refine keeps_cachingS3download (fun text relied => ⟨_, relied source found rfl text rfl⟩)
      ⟨member, source, found, rfl, rfl⟩ (fun bytes relied => ?_) ⟨member, source, found, rfl, rfl⟩
      (fun failure => ?_) (fun object relied => ?_) fun object relied => ?_
    · rintro file ⟨⟩
      rw [uncached, Base64.b64encode_injective (relied source found rfl _ rfl)]
    · cases failure with
      | objectNotFound =>
        refine keeps_attempt ⟨member, trivial⟩ fun returned => ?_
        cases returned with
        | false => rintro file ⟨⟩
        | true =>
          refine keeps_upload ⟨member, source, found, rfl, rfl, rfl⟩ (fun failure => ?_) ?_
          · rintro file ⟨⟩
          · rintro file ⟨⟩
            rw [uncached]
            rfl
      | clientError => rintro file ⟨⟩
      | other => rintro file ⟨⟩
    · exact ⟨member, source, found, rfl, rfl, congrArg Base64.b64encode (relied source found rfl object rfl)⟩
    · rintro file ⟨⟩
      rw [uncached, relied source found rfl object rfl]

/-- Two sources with one key are one source. -/
private theorem source_of_key
    (noCollisions : Set.InjOn renderers.sha1 {text | ∃ source, Rendered lib renderers calls source ∧
      source.hashed = text}) {one other : Source} (first : Rendered lib renderers calls one)
    (second : Rendered lib renderers calls other) (same : one.key renderers = other.key renderers) : one = other :=
  key_injective (fun hashes => noCollisions ⟨one, first, rfl⟩ ⟨other, second, rfl⟩ hashes) same

private theorem held_answer
    (noCollisions : Set.InjOn renderers.sha1 {text | ∃ source, Rendered lib renderers calls source ∧
      source.hashed = text})
    (held : Held lib renderers calls shared) {process : Process}
    {call : Call Bucket String S3Object String Message}
    {answer : call.Answer} {history : List (Event Bucket String S3Object String Message)}
    (asked : (renderContract lib renderers calls job).asks history call)
    (answered : storage.answers shared process call answer after) :
    (renderContract lib renderers calls job).relies call answer ∧ Held lib renderers calls after := by
  obtain ⟨member, asks⟩ := asked
  have rendered {source : Source} (found : job.source lib renderers = .ok source) :
      Rendered lib renderers calls source := ⟨job, member, found⟩
  cases answered with
  | @downloaded bucket key object present =>
    obtain ⟨_, _, rfl, _⟩ := asks
    refine ⟨?_, held⟩
    rintro source found rfl _ ⟨⟩
    obtain ⟨other, otherRendered, same, bytes⟩ := held.store _ _ present
    rwa [source_of_key noCollisions (rendered found) otherRendered same]
  | downloadFailed failure =>
    refine ⟨?_, held⟩
    rintro source found rfl _ ⟨⟩
  | @uploaded bucket key object =>
    obtain ⟨source, found, rfl, rfl, bytes⟩ := asks
    refine ⟨trivial, fun key stored present => ?_, held.caches⟩
    by_cases same : key = source.key renderers
    · subst same
      simp only [write_self, Option.some.injEq] at present
      subst present
      exact ⟨source, rendered found, rfl, bytes⟩
    · exact held.store key stored (by simpa only [write_other _ _ fun both => same both.2] using present)
  | uploadFailed failure => exact ⟨trivial, held⟩
  | copied | copyFailed | sent => exact asks.elim
  | @recalled bucket key text cached =>
    obtain ⟨_, _, rfl, _⟩ := asks
    refine ⟨?_, held.store, fun other otherKey found hit => ?_⟩
    · rintro source found rfl _ ⟨⟩
      obtain ⟨other, otherRendered, same, bytes⟩ := held.caches _ _ _ cached
      rwa [source_of_key noCollisions (rendered found) otherRendered same]
    · by_cases same : other = process
      · subst same
        exact held.caches _ _ _ (by simpa [LruCache.lookup_touch] using hit)
      · exact held.caches _ _ _ (by simpa [same] using hit)
  | missed absent =>
    refine ⟨?_, held⟩
    rintro source found rfl _ ⟨⟩
  | @remembered bucket key text =>
    obtain ⟨source, found, rfl, rfl, rfl⟩ := asks
    refine ⟨trivial, held.store, fun other otherKey text hit => ?_⟩
    by_cases same : other = process
    · subst same
      simp only [Function.update_self] at hit
      rcases LruCache.lookup_insert hit with ⟨⟨⟩, rfl⟩ | before
      · exact ⟨source, rendered found, rfl, rfl⟩
      · exact held.caches _ _ _ before
    · exact held.caches _ _ _ (by simpa [same] using hit)
  | attempted returned => exact ⟨trivial, held⟩

/-- Expired objects and forgotten caches leave only entries that were there. -/
private theorem held_drift (held : Held lib renderers calls shared)
    (moved : Drifts (· = .letterCache) shared after) : Held lib renderers calls after := by
  cases moved with
  | @vanished bucket key allowed =>
    cases allowed
    refine ⟨fun other object present => held.store other object ?_, held.caches⟩
    dsimp only at present
    by_cases same : other = key
    · subst same
      simp at present
    · rwa [write_other _ _ fun both => same both.2] at present
  | @restarted process =>
    refine ⟨held.store, fun other key text found => held.caches other key text ?_⟩
    by_cases same : other = process
    · subst same
      simp at found
    · simpa [same] using found

/-- The calls, their contracts and the entries fit together. -/
theorem calls_verified
    (noCollisions : Set.InjOn renderers.sha1 {text | ∃ source, Rendered lib renderers calls source ∧
      source.hashed = text}) :
    Verified (storage : Service (Shared Bucket String S3Object String Process cacheSize) Process
        (Call Bucket String S3Object String Message) Call.Answer)
      (RenderJob.program lib renderers) (fun job _ => calls job) (renderContract lib renderers calls)
      (Transparent lib renderers)
      (fun shared (_ : List (Entry TaskId Process _ _)) => Held lib renderers calls shared) where
  programs _ _ member := program_keeps member
  calls _ _ _ _ _ _ _ _ held _ asked answered := held_answer noCollisions held asked answered
  drifts _ _ _ held moved := held_drift held moved

/-- The render cache cannot be seen. Calls of a run that starts with an empty bucket
and empty caches return what they would return without a cache, from its start;
and whatever they leave behind, even if they raise, is what later calls with its
key would render. -/
theorem render_cache_is_transparent
    (noCollisions : Set.InjOn renderers.sha1 {text | ∃ source, Rendered lib renderers calls source ∧
      source.hashed = text})
    {initial : Bucket → String → Option S3Object} (empty : ∀ key, initial .letterCache key = none)
    {state : State (Shared Bucket String S3Object String Process cacheSize) TaskId RenderJob Process
      (Call Bucket String S3Object String Message) Call.Answer (Except RenderError MemoryFile)}
    (reachable : Reachable storage (RenderJob.program lib renderers) (fun job _ => calls job)
      ⟨initial, fun _ => .empty⟩ state) :
    (∀ task job process file, state.tasks task = some ⟨job, process, .done (.ok file)⟩ →
      job.uncached lib renderers = .ok file ∧ file.position = 0) ∧
    (∀ job source, calls job → job.source lib renderers = .ok source →
      (∀ object, state.shared.store .letterCache (source.key renderers) = some object →
        job.uncached lib renderers = .ok { bytes := object.filedata }) ∧
      (∀ process text, (state.shared.caches process).lookup (.letterCache, source.key renderers) = some text →
        ∃ file, decodeCached (.ok text) = .ok file ∧ job.uncached lib renderers = .ok file)) := by
  obtain ⟨held, tasks, _⟩ := verified_reachable (calls_verified noCollisions)
    ⟨fun key object found => (by simp [empty] at found), fun _ _ _ found => (by simp at found)⟩ reachable
  refine ⟨fun task job process file ended => ?_, fun job source member found => ⟨fun object present => ?_,
    fun process text cached => ?_⟩⟩
  · have same := (tasks task _ ended).2 file rfl
    obtain ⟨source, _, returned⟩ := Outcomes.bind_eq_ok.mp same
    cases returned
    exact ⟨same, rfl⟩
  · obtain ⟨other, rendered, same, bytes⟩ := held.store _ _ present
    rw [uncached_eq found, bytes, source_of_key noCollisions ⟨job, member, found⟩ rendered same]
  · obtain ⟨other, rendered, same, rfl⟩ := held.caches _ _ _ cached
    rw [← source_of_key noCollisions ⟨job, member, found⟩ rendered same]
    exact ⟨_, decodeCached_b64encode _, uncached_eq found⟩

end Runs

/-! ## Misses and hits -/

section Hits
variable (process : Process) (shared : Shared Bucket String S3Object String Process cacheSize) (key : String)
  (rendered : Bytes)

/-- What is not in the bucket is rendered and stored there. -/
theorem first_render (absent : (shared.caches process).lookup (.letterCache, key) = none) :
    Uninterrupted storage process shared
      (newFunction key rendered : CacheAction Message (Except RenderError MemoryFile))
      [Event.recalled .letterCache key none, Event.downloaded .letterCache key (.error .objectNotFound),
        ⟨.attempt, true⟩, Event.uploaded .letterCache key { filedata := rendered } (.ok ())]
      { shared with store := write shared.store .letterCache key (some { filedata := rendered }) }
      (.ok { bytes := rendered }) :=
  .ask (.missed absent) (.ask (.downloadFailed .objectNotFound) (.ask (.attempted true) (.ask .uploaded .done)))

/-- What is in the bucket is remembered by the process. -/
theorem stored_render {object : S3Object} (absent : (shared.caches process).lookup (.letterCache, key) = none)
    (held : shared.store .letterCache key = some object) :
    Uninterrupted storage process shared
      (newFunction key rendered : CacheAction Message (Except RenderError MemoryFile))
      [Event.recalled .letterCache key none, Event.downloaded .letterCache key (.ok object),
        Event.remembered .letterCache key (encoded object)]
      { shared with
        caches := Function.update shared.caches process
          ((shared.caches process).insert (.letterCache, key) (encoded object)) }
      (.ok { bytes := object.filedata }) :=
  (missed_download absent held).bind .done

/-- What the process remembers is not looked for in the bucket. -/
theorem cached_render {object : S3Object}
    (cached : (shared.caches process).lookup (.letterCache, key) = some (encoded object)) :
    Uninterrupted storage process shared
      (newFunction key rendered : CacheAction Message (Except RenderError MemoryFile))
      [Event.recalled .letterCache key (some (encoded object))]
      { shared with
        caches := Function.update shared.caches process ((shared.caches process).touch (.letterCache, key)) }
      (.ok { bytes := object.filedata }) :=
  (cached_download cached).bind .done

end Hits

section Greeting
open InMemoryLibraries

/-- Renderers for one short document, of which the digest is known. -/
def greetingRenderers : Renderers ℚ (List (Word ℚ)) where
  writePdf _ := encodePages [blankPage]
  dumps _ := []
  convertToPng _ _ := []
  sha1 _ := "e1af84bc83376b4f9248da78e60684bc7b1ebf71"

abbrev greetingKey : String := pdfKey greetingRenderers "<p>Hello</p>"

def greeting : S3Object := { filedata := encodePages [blankPage] }

/-- The document is rendered, found in the bucket, and found in the cache of the
process. -/
theorem greeting_run :
    ∃ state : State (Shared Bucket String S3Object String Unit cacheSize) ℕ RenderJob Unit
        (Call Bucket String S3Object String Unit) Call.Answer (Except RenderError MemoryFile),
      Reachable storage (RenderJob.program libraries greetingRenderers) (fun job _ => job = .getPdf "<p>Hello</p>")
        ⟨fun _ _ => none, fun _ => .empty⟩ state ∧
      (∀ task ∈ [1, 2], state.tasks task =
        some ⟨.getPdf "<p>Hello</p>", (), .done (.ok { bytes := encodePages [blankPage] })⟩) ∧
      Event.downloaded .letterCache greetingKey (.ok greeting) ∈ history 1 state.log ∧
      Event.recalled .letterCache greetingKey (some (encoded greeting)) ∈ history 2 state.log := by
  have start : Reachable (storage : Service _ Unit (Call Bucket String S3Object String Unit) Call.Answer)
      (RenderJob.program libraries greetingRenderers) (fun job _ => job = .getPdf "<p>Hello</p>")
      ⟨fun _ _ => none, fun _ => .empty⟩ (.initial _ : State _ ℕ _ _ _ _ _) := .refl
  have rendered := start.run 0 () rfl rfl (first_render () _ _ greeting.filedata (LruCache.lookup_empty _))
  have found := rendered.run 1 () rfl rfl (stored_render () _ _ greeting.filedata (LruCache.lookup_empty _)
    (write_self (fun _ _ => none) Bucket.letterCache greetingKey (some greeting)))
  have remembered : (LruCache.lookup (Function.update (fun _ => LruCache.empty) ()
      (LruCache.empty.insert (.letterCache, greetingKey) (encoded greeting)) () :
        LruCache (Bucket × String) String cacheSize) (.letterCache, greetingKey)) = some (encoded greeting) := by
    rw [Function.update_self]
    exact LruCache.lookup_insert_self _ (LruCache.lookup_empty _) (by decide)
  have recalled := found.run 2 () rfl rfl (cached_render () _ _ greeting.filedata remembered)
  refine ⟨_, recalled, ?_, ?_, ?_⟩
  · intro task member
    simp only [List.mem_cons, List.not_mem_nil, or_false] at member
    rcases member with rfl | rfl <;> rfl
  · simp [history]
  · simp [history]

theorem hits_are_transparent :
    ∃ state : State (Shared Bucket String S3Object String Unit cacheSize) ℕ RenderJob Unit
        (Call Bucket String S3Object String Unit) Call.Answer (Except RenderError MemoryFile),
      Event.downloaded .letterCache greetingKey (.ok greeting) ∈ history 1 state.log ∧
      Event.recalled .letterCache greetingKey (some (encoded greeting)) ∈ history 2 state.log ∧
      ∀ task ∈ [1, 2], ∃ file, state.tasks task = some ⟨.getPdf "<p>Hello</p>", (), .done (.ok file)⟩ ∧
        RenderJob.uncached libraries greetingRenderers (.getPdf "<p>Hello</p>") = .ok file ∧ file.position = 0 := by
  have noCollisions : Set.InjOn greetingRenderers.sha1 {text | ∃ source,
      Rendered libraries greetingRenderers (· = .getPdf "<p>Hello</p>") source ∧
        source.hashed = text} := by
    rintro _ ⟨one, ⟨_, rfl, ⟨⟩⟩, rfl⟩ _ ⟨other, ⟨_, rfl, ⟨⟩⟩, rfl⟩ _
    rfl
  obtain ⟨state, reachable, finished, stored, cached⟩ := greeting_run
  refine ⟨state, stored, cached, fun task member => ⟨_, finished task member, ?_⟩⟩
  exact (render_cache_is_transparent noCollisions (fun _ => rfl) reachable).1 task _ () _ (finished task member)

end Greeting

end TemplatePreview.RenderCache
