import TemplatePreview.LetterTasks

/-! Downloads through a cache in the process. A miss downloads the object and
remembers it as base 64; nothing ever removes it but newer entries. -/
namespace TemplatePreview.CachedDownloads
open Workers ObjectStore Pdf LetterTasks

variable {Message : Type}

abbrev CacheAction (Message Result : Type) : Type := Action Bucket String S3Object String Message Result

/-- What a cached download raises. -/
inductive DownloadError where
  | s3 (failure : Failure)
  | binasciiError
  deriving DecidableEq, Repr

/-- The `maxsize` of `_cached_s3_download`. -/
def cacheSize : Nat := 2000

/-- `_cached_s3_download`, called through its `lru_cache`. An exception is not
remembered. -/
def cachedS3Download (bucketName : Bucket) (filename : String) : CacheAction Message (Except Failure String) := do
  match ← lookup bucketName filename with
  | some cached => return .ok cached
  | none =>
    match ← download bucketName filename with
    | .error failure => return .error failure
    | .ok object => do
      let encoded := Base64.b64encode object.filedata
      remember bucketName filename encoded
      return .ok encoded

/-- `BytesIO(b64decode(cached))`. -/
def decodeCached : Except Failure String → Except DownloadError MemoryFile
  | .error failure => .error (.s3 failure)
  | .ok cached =>
    match Base64.b64decode cached with
    | .error _ => .error .binasciiError
    | .ok bytes => .ok { bytes := bytes }

/-- `caching_s3download`. -/
def cachingS3download (bucketName : Bucket) (filename : String) :
    CacheAction Message (Except DownloadError MemoryFile) := do
  return decodeCached (← cachedS3Download bucketName filename)

/-- What is remembered of an object. -/
def encoded (object : S3Object) : String := Base64.b64encode object.filedata

@[simp] theorem decodeCached_b64encode (bytes : Bytes) :
    decodeCached (.ok (Base64.b64encode bytes)) = .ok { bytes := bytes } := by
  rw [decodeCached, Base64.b64decode_b64encode]

section Rules
variable {contract : Contract (Call Bucket String S3Object String Message) Call.Answer}
  {post : List (Event Bucket String S3Object String Message) → β → Prop}
  {before : List (Event Bucket String S3Object String Message)} {bucket : Bucket} {key : String}

/-- A cached download gives what was in the cache, or what it downloaded and
remembered. Every text in the cache must be base 64. -/
theorem keeps_cachingS3download {next : Except DownloadError MemoryFile → CacheAction Message β}
    (encoded : ∀ text, contract.relies (.lookup bucket key) (some text) → ∃ bytes, text = Base64.b64encode bytes)
    (recalls : contract.asks before (.lookup bucket key))
    (hit : ∀ bytes, contract.relies (.lookup bucket key) (some (Base64.b64encode bytes)) →
      contract.Keeps post (before ++ [Event.recalled bucket key (some (Base64.b64encode bytes))])
        (next (.ok { bytes := bytes })))
    (downloads : contract.asks (before ++ [Event.recalled bucket key none]) (.download bucket key))
    (failed : ∀ failure, contract.Keeps post
      (before ++ [Event.recalled bucket key none] ++ [Event.downloaded bucket key (.error failure)])
      (next (.error (.s3 failure))))
    (remembers : ∀ object, contract.relies (.download bucket key) (.ok object) →
      contract.asks (before ++ [Event.recalled bucket key none] ++ [Event.downloaded bucket key (.ok object)])
        (.remember bucket key (Base64.b64encode object.filedata)))
    (fetched : ∀ object, contract.relies (.download bucket key) (.ok object) → contract.Keeps post
      (before ++ [Event.recalled bucket key none] ++ [Event.downloaded bucket key (.ok object)] ++
        [Event.remembered bucket key (Base64.b64encode object.filedata)])
      (next (.ok { bytes := object.filedata }))) :
    contract.Keeps post before (cachingS3download bucket key >>= next) := by
  refine Contract.keeps_bind _ (Contract.keeps_bind _ (keeps_lookup recalls (fun text relied => ?_) ?_))
  · obtain ⟨bytes, rfl⟩ := encoded text relied
    have decoded := hit bytes relied
    rwa [← decodeCached_b64encode] at decoded
  · apply keeps_download downloads (fun failure => failed failure)
    intro object relied
    apply keeps_remember (remembers object relied)
    have decoded := fetched object relied
    rwa [← decodeCached_b64encode] at decoded

end Rules

section Runs
variable {Process : Type} [DecidableEq Process] {vanishes : Bucket → Prop} {process : Process} {maxsize : Nat}
  {shared : Shared Bucket String S3Object String Process maxsize} {bucket : Bucket} {key : String} {object : S3Object}

/-- A miss downloads the object and remembers it. -/
theorem missed_download (absent : (shared.caches process).lookup (bucket, key) = none)
    (held : shared.store bucket key = some object) :
    Uninterrupted (service vanishes) process shared
      (cachingS3download bucket key : CacheAction Message (Except DownloadError MemoryFile))
      [Event.recalled bucket key none, Event.downloaded bucket key (.ok object),
        Event.remembered bucket key (encoded object)]
      { shared with
        caches := Function.update shared.caches process
          ((shared.caches process).insert (bucket, key) (encoded object)) }
      (.ok { bytes := object.filedata }) := by
  rw [← decodeCached_b64encode]
  exact .ask (.missed absent) (.ask (.downloaded held) (.ask .remembered .done))

/-- A hit does not look at the bucket. -/
theorem cached_download (cached : (shared.caches process).lookup (bucket, key) = some (encoded object)) :
    Uninterrupted (service vanishes) process shared
      (cachingS3download bucket key : CacheAction Message (Except DownloadError MemoryFile))
      [Event.recalled bucket key (some (encoded object))]
      { shared with
        caches := Function.update shared.caches process ((shared.caches process).touch (bucket, key)) }
      (.ok { bytes := object.filedata }) := by
  rw [← decodeCached_b64encode]
  exact .ask (.recalled cached) .done

end Runs

end TemplatePreview.CachedDownloads
