import TemplatePreview.StreamPrograms
import TemplatePreview.RewriteStages

/-! No read that begins at the current position misses a part of its file, wherever
libraries leave positions. Every program over files follows the computation on
their values; each restores the positions that later reads depend on. -/
namespace TemplatePreview.StreamPositions
open SharedObjects Pdf Outcomes StreamPrograms

variable {K σ : Type} {α β γ δ : Type}

/-- A read that begins at the start and receives everything. -/
def Whole (read : StreamRead) : Prop := read.position = 0 ∧ read.received = read.contents

/-- A file that is there and holds these bytes, at any position. -/
structure Holds (streams : Streams) (file : Ref) (bytes : Bytes) : Prop where
  present : file < streams.next
  bytes : (streams.objects file).bytes = bytes

/-- A file that is there, with its position. -/
structure Is (streams : Streams) (file : Ref) (stream : MemoryFile) : Prop where
  present : file < streams.next
  object : streams.objects file = stream

/-- At most the position of one file has changed, among the files there were. -/
structure Touched (before after : Streams) (file : Ref) : Prop where
  bytes : (after.objects file).bytes = (before.objects file).bytes
  keeps : Keeps before after {file}

section Holding
variable {first before after : Streams} {file other : Ref} {bytes : Bytes} {stream : MemoryFile}

theorem Touched.trans (earlier : Touched first before file) (later : Touched before after file) :
    Touched first after file := ⟨later.bytes.trans earlier.bytes, earlier.keeps.trans later.keeps⟩

/-- Where no file has changed, this one has not. -/
theorem Touched.of_keeps (keeps : Keeps before after ∅) (present : file < before.next) : Touched before after file :=
  ⟨congrArg MemoryFile.bytes (keeps.others file present (Set.notMem_empty file)), keeps.mono (Set.empty_subset _)⟩

/-- What is done to a file made later does not touch this one. -/
theorem Touched.beside (earlier : Touched first before file) (present : file < first.next) (fresh : first.next ≤ other)
    (later : Touched before after other) : Touched first after file := by
  have unchanged {old : Ref} (bound : old < first.next) : after.objects old = before.objects old :=
    later.keeps.others old (Nat.lt_of_lt_of_le bound earlier.keeps.next) (Nat.ne_of_lt (Nat.lt_of_lt_of_le bound fresh))
  refine ⟨by rw [unchanged present, earlier.bytes], Nat.le_trans earlier.keeps.next later.keeps.next, ?_⟩
  intro old bound different
  rw [unchanged bound, earlier.keeps.others old bound different]

theorem Is.holds (is : Is before file stream) : Holds before file stream.bytes := ⟨is.present, by rw [is.object]⟩

theorem Holds.touched (holds : Holds before file bytes) (touched : Touched before after file) :
    Holds after file bytes :=
  ⟨Nat.lt_of_lt_of_le holds.present touched.keeps.next, touched.bytes.trans holds.bytes⟩

/-- A file is not changed through another. -/
theorem Is.touched (is : Is before file stream) (touched : Touched before after other) (different : file ≠ other) :
    Is after file stream :=
  ⟨Nat.lt_of_lt_of_le is.present touched.keeps.next,
    (touched.keeps.others file is.present different).trans is.object⟩

end Holding

/-! ## Rules for files -/

abbrev Follows (before : Streams) (action : StreamAction α) (computation : Py β) (post : α → β → Streams → Prop) :
    Prop := SharedObjects.Follows Whole before action computation post

section Rules
variable {before : Streams} {file : Ref} {computation : Py δ} {post : γ → δ → Streams → Prop}

theorem follows_contents {next : Bytes → StreamAction γ} {bytes : Bytes} (holds : Holds before file bytes)
    (rest : Follows before (next bytes) computation post) :
    Follows before (contents file >>= next) computation post := by
  rw [← holds.bytes] at rest
  rw [contents, bind_assoc]
  exact .look rest

/-- After seeking the position is known. -/
theorem follows_seek {next : Unit → StreamAction γ} {position : Nat} {bytes : Bytes} (holds : Holds before file bytes)
    (rest : ∀ after, Touched before after file → Is after file ⟨bytes, position⟩ →
      Follows after (next ()) computation post) :
    Follows before (seek file position >>= next) computation post := by
  refine .change fun after keeps sought _ => rest after ⟨by rw [sought]; rfl, keeps⟩ ⟨?_, ?_⟩
  · exact Nat.lt_of_lt_of_le holds.present keeps.next
  · rw [sought, MemoryFile.seek, holds.bytes]

/-- After a library has read a file its position is not known. -/
theorem follows_reading {result : Py α} {bytes : Bytes} (holds : Holds before file bytes) :
    Follows before (reading file result) result fun value other after => value = other ∧ Touched before after file := by
  refine .choose fun position middle keeps => ?_
  have untouched : Touched before middle file := .of_keeps keeps holds.present
  exact follows_seek (holds.touched untouched) fun after touched _ => .lift fun _ _ => ⟨rfl, untouched.trans touched⟩

/-- What touches a file leaves its bytes to what comes after. -/
theorem follows_touching {action : StreamAction α} {result : Py α} {next : α → StreamAction γ}
    {continued : α → Py δ} {bytes : Bytes} (holds : Holds before file bytes)
    (part : Follows before action result fun value other after => value = other ∧ Touched before after file)
    (rest : ∀ value after, Touched before after file → Holds after file bytes →
      Follows after (next value) (continued value) post) :
    Follows before (action >>= next) (result >>= continued) post := by
  refine .bind part ?_
  rintro value _ after _ ⟨rfl, touched⟩
  exact rest value after touched (holds.touched touched)

theorem follows_reading_bind {result : Py α} {next : α → StreamAction γ} {continued : α → Py δ} {bytes : Bytes}
    (holds : Holds before file bytes)
    (rest : ∀ value after, Touched before after file → Holds after file bytes →
      Follows after (next value) (continued value) post) :
    Follows before (reading file result >>= next) (result >>= continued) post :=
  follows_touching holds (follows_reading holds) rest

/-- A read must begin at the start of its file. -/
theorem follows_read {next : Bytes → StreamAction γ} {consumer : Consumer} {stream : MemoryFile}
    (is : Is before file stream) (start : stream.position = 0)
    (rest : ∀ after, Touched before after file →
      after.events = before.events ++ [⟨consumer, 0, stream.bytes, stream.bytes⟩] →
      Follows after (next stream.bytes) computation post) :
    Follows before (read consumer file >>= next) computation post := by
  obtain ⟨_, rfl⟩ := is
  simp only [StreamPrograms.read, bind_assoc]
  have whole : (before.objects file).read.1 = (before.objects file).bytes := MemoryFile.read_start _ start
  refine .look (.observe ⟨start, whole⟩ fun observed objects next events => ?_)
  refine .change fun after keeps moved unobserved => ?_
  rw [start, whole] at events
  rw [whole, pure_bind]
  refine rest after ⟨?_, ?_⟩ (unobserved.trans events)
  · rw [moved, objects]
    rfl
  · exact (Keeps.of_eq next objects).trans keeps

theorem follows_make {next : Ref → StreamAction γ} {stream : MemoryFile}
    (rest : ∀ after file, Keeps before after ∅ → before.next ≤ file → Is after file stream →
      Follows after (next file) computation post) :
    Follows before (Action.make stream >>= next) computation post :=
  .make fun after file keeps fresh present made => rest after file keeps fresh ⟨present, made⟩

end Rules

/-! ## What the programs return -/

/-- A value is returned, and the file is back at its start. -/
structure Restored (before : Streams) (file : Ref) (stream : MemoryFile) (value : α) (other : α × MemoryFile)
    (after : Streams) : Prop where
  same : other = (value, stream.seek 0)
  touched : Touched before after file
  rewound : Is after file (stream.seek 0)

/-- A file is returned at its start. -/
structure Returned (file : Ref) (stream : MemoryFile) (after : Streams) : Prop where
  is : Is after file stream
  start : stream.position = 0

/-- A new file is returned that was made from another. -/
structure Derived (before : Streams) (source file : Ref) (stream : MemoryFile) (after : Streams) : Prop where
  returned : Returned file stream after
  fresh : before.next ≤ file
  touched : Touched before after source

section Libraries
variable {lib : Libraries K σ} {before : Streams} {file : Ref} {stream : MemoryFile} {bytes : Bytes}

theorem follows_openPages (holds : Holds before file stream.bytes) :
    Follows before (openPages lib file) (call (lib.readPages stream.bytes)) fun pages other after =>
      pages = other ∧ Touched before after file := by
  rw [Pdf.Libraries.readPages, call_bind]
  refine follows_contents holds (follows_reading_bind holds fun pdf opened touched held => ?_)
  refine (follows_reading held).mono ?_
  rintro pages _ after ⟨rfl, later⟩
  exact ⟨rfl, touched.trans later⟩

theorem follows_openDocument (holds : Holds before file bytes) :
    Follows before (openDocument lib file) (call (lib.openDocument bytes)) fun doc other after =>
      doc = other ∧ Touched before after file :=
  follows_contents holds (follows_reading holds)

/-- Seeking to the start last restores a file. -/
theorem follows_rewind {value : α} {first : Streams} (holds : Holds before file stream.bytes)
    (touched : Touched first before file) :
    Follows before (seek file 0 >>= fun _ => pure value) (.ok (value, stream.seek 0))
      (Restored first file stream) :=
  follows_seek holds fun _ later is => .pure ⟨rfl, touched.trans later, is⟩

theorem follows_doesPdfContainColorspace (colourspace : String) (holds : Holds before file stream.bytes) :
    Follows before (doesPdfContainColorspace lib colourspace file)
      (EmbeddedFonts.doesPdfContainColorspace lib colourspace stream) (Restored before file stream) := by
  refine follows_touching holds (follows_openDocument holds) fun doc opened touched held => ?_
  refine follows_reading_bind held fun found searched later heldLater => ?_
  exact follows_rewind heldLater (touched.trans later)

theorem follows_containsUnembeddedFonts (holds : Holds before file stream.bytes) :
    Follows before (containsUnembeddedFonts lib file) (EmbeddedFonts.containsUnembeddedFonts lib stream)
      (Restored before file stream) := by
  refine follows_contents holds (follows_reading_bind holds fun pdf opened touched held => ?_)
  refine follows_reading_bind held fun pages paged again heldAgain => ?_
  refine follows_reading_bind heldAgain fun fonts walked later heldLater => ?_
  exact follows_rewind heldLater ((touched.trans again).trans later)

/-- A file that is made at its start. -/
theorem follows_derived {first : Streams} {made : MemoryFile} (holds : Holds first file bytes)
    (touched : Touched first before file) (start : made.position = 0) :
    Follows before (Action.make made) (.ok made) (Derived first file) := by
  rw [← bind_pure (Action.make made)]
  refine follows_make fun after out keeps fresh is => .pure ⟨⟨is, start⟩, ?_, ?_⟩
  · exact Nat.le_trans touched.keeps.next fresh
  · exact touched.trans (.of_keeps keeps (holds.touched touched).present)

/-- A caller of ghostscript hands it all of a file, and returns what it wrote. -/
theorem follows_ghostscript {consumer : Consumer} {convert : MemoryFile → Py MemoryFile}
    (returned : Returned file stream before) (start : ∀ out, convert stream = .ok out → out.position = 0) :
    Follows before (read consumer file >>= fun input => gsOutput (convert { bytes := input })) (convert stream)
      (Derived before file) := by
  refine follows_read returned.is returned.start fun after touched _ => ?_
  have whole : { bytes := stream.bytes } = stream := by
    rw [← returned.start]
  have followed : Follows after (gsOutput (convert stream)) (convert stream >>= pure) (Derived before file) :=
    .lift_bind fun out written => follows_derived returned.is.holds touched (start out written)
  rw [bind_pure] at followed
  rwa [whole]

theorem follows_convertPdfToCmyk (returned : Returned file stream before) :
    Follows before (convertPdfToCmyk lib file) (EmbeddedFonts.convertPdfToCmyk lib stream)
      (Derived before file) := by
  refine follows_ghostscript returned fun out converted => ?_
  obtain ⟨_, _, _, rfl⟩ := RewriteStages.convertPdfToCmyk_eq_ok returned.start converted
  rfl

theorem follows_embedFonts (returned : Returned file stream before) :
    Follows before (embedFonts lib file) (EmbeddedFonts.embedFonts lib stream) (Derived before file) := by
  refine follows_ghostscript returned fun out embedded => ?_
  obtain ⟨_, _, _, rfl⟩ := RewriteStages.embedFonts_eq_ok returned.start embedded
  rfl

/-- A file is converted unless it has CMYK and no RGB. -/
theorem follows_conversion (containsCmyk : Bool) (returned : Returned file stream before) :
    Follows before (if !containsCmyk then convertPdfToCmyk lib file
      else do
        let containsRgb ← doesPdfContainRgb lib file
        if containsRgb then convertPdfToCmyk lib file else return file)
      (if !containsCmyk then EmbeddedFonts.convertPdfToCmyk lib stream
      else do
        let (containsRgb, fileData) ← EmbeddedFonts.doesPdfContainRgb lib stream
        if containsRgb then EmbeddedFonts.convertPdfToCmyk lib fileData else return fileData) Returned := by
  cases containsCmyk with
  | false => exact (follows_convertPdfToCmyk returned).mono fun _ _ _ derived => derived.returned
  | true =>
    refine .bind (follows_doesPdfContainColorspace "RGB" returned.is.holds) ?_
    rintro containsRgb _ searched _ ⟨rfl, _, rewound⟩
    cases containsRgb with
    | true => exact (follows_convertPdfToCmyk ⟨rewound, rfl⟩).mono fun _ _ _ derived => derived.returned
    | false => exact .pure ⟨rewound, rfl⟩

/-- Both the colours and the fonts are looked at before a file is handed on. -/
theorem follows_normaliseFontsAndColours (holds : Holds before file stream.bytes) :
    Follows before (normaliseFontsAndColours lib file) (EmbeddedFonts.normaliseFontsAndColours lib stream)
      Returned := by
  refine .bind (follows_doesPdfContainColorspace "CMYK" holds) ?_
  rintro containsCmyk _ searched _ ⟨rfl, _, rewound⟩
  refine .bind (follows_conversion containsCmyk ⟨rewound, rfl⟩) ?_
  rintro out converted _ _ ⟨is, _⟩
  refine .bind (follows_containsUnembeddedFonts is.holds) ?_
  rintro unembedded _ checked _ ⟨rfl, _, rewound⟩
  dsimp only
  split
  · refine .lift_bind fun _ _ => ?_
    exact (follows_embedFonts ⟨rewound, rfl⟩).mono fun _ _ _ derived => derived.returned
  · exact .pure ⟨rewound, rfl⟩

theorem follows_bytesioFromPdf (pages : List (Page K σ)) (holds : Holds before file bytes) :
    Follows before (bytesioFromPdf lib file pages) (Pdf.bytesioFromPdf lib pages) (Derived before file) := by
  refine follows_reading_bind holds fun written after touched held => ?_
  refine follows_make fun made out keeps fresh is => ?_
  refine follows_seek is.holds fun sought later rewound => .pure ⟨⟨rewound, rfl⟩, ?_, ?_⟩
  · exact Nat.le_trans touched.keeps.next fresh
  · exact (touched.trans (.of_keeps keeps held.present)).beside holds.present
      (Nat.le_trans touched.keeps.next fresh) later

end Libraries

/-! ## Validation -/

section Validation
variable [Field K] [LinearOrder K] {lib : Libraries K σ} {before : Streams} {file : Ref} {stream : MemoryFile}
  {bytes : Bytes}

theorem follows_getPagesWithInvalidOrientationOrSize (holds : Holds before file stream.bytes) :
    Follows before (getPagesWithInvalidOrientationOrSize lib file)
      (PageValidation.getPagesWithInvalidOrientationOrSize lib stream) fun numbers other after =>
        numbers = other.1 ∧ other.2.bytes = stream.bytes ∧ Touched before after file := by
  exact follows_touching holds (follows_openPages holds) fun pages opened touched _ => .pure ⟨rfl, rfl, touched⟩

/-- The overlaid file is a new one, and the file it was made from is put back. -/
theorem follows_overlayPrintableAreasWithWhite (isAnAttachment : Bool) (holds : Holds before file stream.bytes) :
    Follows before (overlayPrintableAreasWithWhite lib file isAnAttachment)
      (Overlays.overlayPrintableAreasWithWhite lib stream isAnAttachment) fun out other after =>
        other.2 = stream.seek 0 ∧ Is after file (stream.seek 0) ∧ Derived before file out other.1 after := by
  refine follows_touching holds (follows_openPages holds) fun pages opened touched held => ?_
  refine follows_reading_bind held fun first drawn again heldAgain => ?_
  refine follows_reading_bind heldAgain fun overlaid merged later heldLater => ?_
  refine .bind (follows_bytesioFromPdf overlaid heldLater) ?_
  rintro out made written _ ⟨⟨is, start⟩, fresh, saved⟩
  have fromStart := ((touched.trans again).trans later).trans saved
  have isNew : before.next ≤ out := Nat.le_trans ((touched.trans again).trans later).keeps.next fresh
  refine follows_seek (holds.touched fromStart) fun after sought rewound => .pure ⟨rfl, rewound, ?_⟩
  exact ⟨⟨is.touched sought (Nat.ne_of_gt (Nat.lt_of_lt_of_le holds.present isNew)), start⟩, isNew,
    fromStart.trans sought⟩

omit [Field K] [LinearOrder K] in
theorem follows_getOutOfBoundsPages (returned : Returned file stream before) :
    Follows before (getOutOfBoundsPages lib file) (PageValidation.getOutOfBoundsPages lib stream)
      (Restored before file stream) := by
  refine follows_read returned.is returned.start fun after touched _ => ?_
  rw [PageValidation.getOutOfBoundsPages, stream.read_start returned.start]
  exact .lift_bind fun images _ => follows_rewind (returned.is.holds.touched touched) touched

theorem follows_getPagesWithNotifyTag (isAnAttachment : Bool) (holds : Holds before file stream.bytes) :
    Follows before (getPagesWithNotifyTag lib file isAnAttachment)
      (PageValidation.getPagesWithNotifyTag lib stream isAnAttachment) (Restored before file stream) := by
  refine follows_seek holds fun sought seeking is => ?_
  have found : Holds sought file stream.bytes := is.holds
  refine follows_touching found (follows_openDocument found) fun doc opened touched held => ?_
  dsimp only
  generalize (if isAnAttachment = true then 0 else 1) = startingPageIndex
  split
  · exact follows_rewind held (seeking.trans touched)
  · refine follows_reading_bind held fun pages numbered again heldAgain => ?_
    refine follows_reading_bind heldAgain fun invalidPages tagged later heldLater => ?_
    exact follows_rewind heldLater (((seeking.trans touched).trans again).trans later)

/-- Validation leaves the bytes of its file as they were. A file that passes is back
at its start, unlike the overlaid copy that was checked. -/
theorem follows_getInvalidPagesWithMessage (isAnAttachment : Bool) (holds : Holds before file stream.bytes) :
    Follows before (getInvalidPagesWithMessage lib file isAnAttachment)
      (PageValidation.getInvalidPagesWithMessage lib stream isAnAttachment) fun verdict other after =>
        verdict = other.1 ∧ other.2.bytes = stream.bytes ∧ Touched before after file ∧
          (verdict.1 = "" → other.2 = stream.seek 0 ∧ Is after file (stream.seek 0)) := by
  refine .bind (follows_getPagesWithInvalidOrientationOrSize holds) ?_
  rintro numbers ⟨_, read⟩ sized _ ⟨rfl, same, touched⟩
  dsimp only at same ⊢
  split
  · exact .pure ⟨rfl, same, touched, by simp⟩
  have held : Holds sized file read.bytes := by
    rw [same]
    exact holds.touched touched
  refine .bind (follows_overlayPrintableAreasWithWhite isAnAttachment held) ?_
  rintro out ⟨overlaid, _⟩ drawn _ ⟨rfl, rewound, returned, fresh, again⟩
  have rewind : read.seek 0 = stream.seek 0 := by rw [MemoryFile.seek, MemoryFile.seek, same]
  rw [rewind] at rewound
  have present : file < sized.next := held.present
  refine .bind (follows_getOutOfBoundsPages returned) ?_
  rintro numbers _ checked _ ⟨rfl, looked, restored⟩
  have different : file ≠ out := Nat.ne_of_lt (Nat.lt_of_lt_of_le present fresh)
  dsimp only
  split
  · exact .pure ⟨rfl, by rw [MemoryFile.seek_bytes, same], touched.trans (again.beside present fresh looked), by simp⟩
  refine .bind (follows_getPagesWithNotifyTag isAnAttachment restored.holds) ?_
  rintro numbers _ tagged _ ⟨rfl, searched, _⟩
  have beside := touched.trans ((again.beside present fresh looked).beside present fresh searched)
  dsimp only
  split
  · exact .pure ⟨rfl, by rw [MemoryFile.seek_bytes, same], beside, by simp⟩
  · refine .pure ⟨rfl, by rw [MemoryFile.seek_bytes, same], beside, fun _ => ⟨rewind, ?_⟩⟩
    exact (rewound.touched looked different).touched searched different

end Validation

/-! ## Letters -/

section Letters
variable [Field K] [LinearOrder K] {lib : Libraries K σ} {before : Streams} {file : Ref} {stream : MemoryFile}
  {bytes : Bytes}

theorem follows_extractTextFromFirstPageOfPdf (rect : Region.Box K) (holds : Holds before file stream.bytes) :
    Follows before (extractTextFromFirstPageOfPdf lib file rect)
      (TextExtraction.extractTextFromFirstPageOfPdf lib stream rect) (Restored before file stream) := by
  refine follows_seek holds fun sought seeking is => ?_
  have found : Holds sought file stream.bytes := is.holds
  refine follows_touching found (follows_openDocument found) fun doc opened touched held => ?_
  cases doc with
  | nil =>
    -- raising and then seeking is raising
    have raised : Follows opened (reading file (throw .indexError) >>= fun ret => do seek file 0; return ret)
        ((throw .indexError : Py String) >>= fun ret => .ok (ret, stream.seek 0)) (Restored before file stream) :=
      follows_reading_bind held fun text after later heldLater =>
        follows_rewind heldLater ((seeking.trans touched).trans later)
    exact raised
  | cons page rest =>
    refine follows_reading_bind held fun text after later heldLater => ?_
    exact follows_rewind heldLater ((seeking.trans touched).trans later)

theorem follows_isNotifyTagPresent (holds : Holds before file stream.bytes) :
    Follows before (isNotifyTagPresent lib file) (TextExtraction.isNotifyTagPresent lib stream)
      (Restored before file stream) := by
  refine .bind (follows_extractTextFromFirstPageOfPdf _ holds) ?_
  rintro text _ after _ ⟨rfl, touched, rewound⟩
  exact .pure ⟨rfl, touched, rewound⟩

omit [LinearOrder K] in
theorem follows_redactPrecompiledLetterAddressBlock (holds : Holds before file stream.bytes) :
    Follows before (redactPrecompiledLetterAddressBlock lib file)
      (AddressWindow.redactPrecompiledLetterAddressBlock lib stream) (Derived before file) := by
  refine follows_seek holds fun sought seeking is => ?_
  have found : Holds sought file stream.bytes := is.holds
  refine follows_touching found (follows_openDocument found) fun doc opened touched held => ?_
  cases doc with
  | nil => exact .raise
  | cons firstPage rest =>
    refine follows_reading_bind held fun redacted redaction again heldAgain => ?_
    refine follows_reading_bind heldAgain fun written saved later heldLater => ?_
    exact follows_derived holds (((seeking.trans touched).trans again).trans later) rfl

theorem follows_addAddressToPrecompiledLetter (address : String) (holds : Holds before file stream.bytes) :
    Follows before (addAddressToPrecompiledLetter lib file address)
      (AddressRewrite.addAddressToPrecompiledLetter lib stream address) Returned := by
  refine follows_touching holds (follows_openPages holds) fun pages opened _ held => ?_
  refine .lift_bind fun _ _ => ?_
  cases pages with
  | nil => exact .raise
  | cons existingPage rest =>
    refine follows_reading_bind held fun merged drawn again heldAgain => ?_
    exact (follows_bytesioFromPdf _ heldAgain).mono fun _ _ _ derived => derived.returned

/-- The address is read from the letter, and written to a new file. -/
theorem follows_rewriteAddressBlock (pageCount : Nat) (allow : Bool) (holds : Holds before file stream.bytes) :
    Follows before (rewriteAddressBlock lib file pageCount allow)
      (AddressRewrite.rewriteAddressBlock lib stream pageCount allow) fun letter other after =>
        letter.2 = other.2 ∧ Returned letter.1 other.1 after := by
  refine .bind (follows_extractTextFromFirstPageOfPdf _ holds) ?_
  rintro text _ extracted _ ⟨rfl, _, rewound⟩
  refine .lift_bind fun address _ => ?_
  cases AddressRewrite.errorCode address allow with
  | some code => exact .raise
  | none =>
    refine .bind (follows_redactPrecompiledLetterAddressBlock rewound.holds) ?_
    rintro redacted blank _ _ ⟨returned, _, _⟩
    refine .bind (follows_addAddressToPrecompiledLetter address.normalised returned.is.holds) ?_
    rintro out written after _ added
    exact .pure ⟨rfl, added⟩

omit [Field K] [LinearOrder K] in
theorem follows_logMetadataForLetter (holds : Holds before file stream.bytes) :
    Follows before (logMetadataForLetter lib file) (Sanitisation.logMetadataForLetter lib stream)
      fun _ other after => other.bytes = stream.bytes ∧ Holds after file stream.bytes := by
  refine follows_contents holds (follows_reading_bind holds fun pdf opened touched held => ?_)
  rw [← bind_pure (reading file (call pdf.metadata))]
  exact follows_reading_bind held fun _ after later heldLater => .pure ⟨rfl, heldLater⟩

omit [LinearOrder K] in
theorem follows_addNotifyTagToLetter (holds : Holds before file stream.bytes) :
    Follows before (addNotifyTagToLetter lib file) (Sanitisation.addNotifyTagToLetter lib stream) Returned := by
  refine follows_touching holds (follows_openPages holds) fun pages opened _ held => ?_
  cases pages with
  | nil => exact .raise
  | cons page rest =>
    refine .lift_bind fun _ _ => ?_
    refine follows_reading_bind held fun merged drawn again heldAgain => ?_
    exact (follows_bytesioFromPdf _ heldAgain).mono fun _ _ _ derived => derived.returned

theorem follows_rewritePdf (pageCount : Nat) (allow : Bool) (holds : Holds before file stream.bytes) :
    Follows before (rewritePdf lib file pageCount allow) (Sanitisation.rewritePdf lib stream pageCount allow)
      fun letter other after => letter.2 = other.2 ∧ Returned letter.1 other.1 after := by
  refine .bind (follows_logMetadataForLetter holds) ?_
  rintro _ logged afterLog _ ⟨same, held⟩
  rw [← same] at held
  refine .bind (follows_rewriteAddressBlock pageCount allow held) ?_
  rintro ⟨letter, _⟩ ⟨rewritten, address⟩ _ _ ⟨rfl, is, _⟩
  refine .bind (follows_normaliseFontsAndColours is.holds) ?_
  rintro normal normalised _ _ ⟨is, _⟩
  refine .bind (follows_isNotifyTagPresent is.holds) ?_
  rintro present _ _ _ ⟨rfl, _, rewound⟩
  cases present with
  | true => exact .pure ⟨rfl, rewound, rfl⟩
  | false =>
    refine .bind (follows_addNotifyTagToLetter rewound.holds) ?_
    rintro out tagged after _ returned
    exact .pure ⟨rfl, returned⟩

theorem follows_produce (pageCount : Nat) (allow isAnAttachment : Bool) (holds : Holds before file stream.bytes) :
    Follows before (produce lib file pageCount allow isAnAttachment)
      (Sanitisation.produce lib stream pageCount allow isAnAttachment)
      fun letter other after => letter.2 = other.2 ∧ Returned letter.1 other.1 after := by
  cases isAnAttachment with
  | true =>
    refine .bind (follows_normaliseFontsAndColours holds) ?_
    rintro out normalised after _ returned
    exact .pure ⟨rfl, returned⟩
  | false =>
    refine .bind (follows_rewritePdf pageCount allow holds) ?_
    rintro ⟨letter, _⟩ ⟨rewritten, address⟩ after _ ⟨rfl, returned⟩
    exact .pure ⟨rfl, returned⟩

end Letters

/-! ## Sanitisation -/

section Sanitise
variable [Field K] [LinearOrder K] {lib : Libraries K σ} {before : Streams} {encoded : Bytes}
  {allow isAnAttachment : Bool}

/-- The last read receives the whole file that was produced from the bytes that were
sent, and becomes the file of the result. -/
def EndsWithProduced (lib : Libraries K σ) (encoded : Bytes) (allow isAnAttachment : Bool)
    (details : Sanitisation.SanitisationDetails) (after : Streams) : Prop :=
  ∃ earlier pageCount produced address,
    after.events = earlier ++ [⟨.sanitiseFileContents, 0, produced.bytes, produced.bytes⟩] ∧
      Sanitisation.produce lib { bytes := encoded } pageCount allow isAnAttachment = .ok (produced, address) ∧
      details.file = some (Base64.b64encode produced.bytes)

theorem follows_sanitise :
    Follows before (sanitise lib encoded allow isAnAttachment)
      (Sanitisation.sanitise lib encoded allow isAnAttachment) fun details other after =>
        details = other ∧ EndsWithProduced lib encoded allow isAnAttachment details after := by
  refine follows_make fun made file _ _ is => follows_contents is.holds ?_
  refine follows_reading_bind is.holds fun pageCount counted touched held => ?_
  dsimp only
  split
  · exact .raise
  have counting : Holds counted file (lib.leave .pageCount { bytes := encoded }).bytes := held
  refine .bind (follows_getInvalidPagesWithMessage isAnAttachment counting) ?_
  rintro ⟨message, invalidPages⟩ ⟨_, validated⟩ checked _ ⟨rfl, _, _, passed⟩
  dsimp only at passed ⊢
  split
  · exact .raise
  rename_i unnamed
  obtain ⟨rfl, rewound⟩ := passed (not_not.mp unnamed)
  refine .bind (follows_produce pageCount allow isAnAttachment rewound.holds) ?_
  rintro ⟨letter, address⟩ ⟨produced, _⟩ finished production ⟨rfl, is, start⟩
  refine follows_read is start fun after _ events => ?_
  rw [produced.read_start start]
  refine .lift_bind fun _ _ => ?_
  exact .pure ⟨rfl, finished.events, pageCount, produced, address, events, production, rfl⟩

theorem follows_sanitiseFileContents :
    Follows before (sanitiseFileContents lib encoded allow isAnAttachment)
      (.ok (Sanitisation.sanitiseFileContents lib encoded allow isAnAttachment)) fun details other after =>
        details = other ∧ (details.message = none → EndsWithProduced lib encoded allow isAnAttachment details after) := by
  have handled : (Sanitisation.sanitise lib encoded allow isAnAttachment).tryCatch
      (fun error => .ok (Sanitisation.handled error)) =
        .ok (Sanitisation.sanitiseFileContents lib encoded allow isAnAttachment) := by
    rw [Sanitisation.sanitiseFileContents]
    cases Sanitisation.sanitise lib encoded allow isAnAttachment <;> rfl
  rw [← handled]
  refine .handled (follows_sanitise.mono fun details other after ends => ⟨ends.1, fun _ => ends.2⟩) ?_
  intro error after
  refine ⟨rfl, fun silent => ?_⟩
  cases error <;> cases silent

/-- Validation raises, or leaves the bytes of a file and puts it back at its start
unless it reports a message. -/
def LeavesAsFound (lib : Libraries K σ) (isAnAttachment : Bool) (before : Streams) (file : Ref) : Prop :=
  match (getInvalidPagesWithMessage lib file isAnAttachment).outcome before with
  | (.error _, _) => True
  | (.ok (message, _), after) =>
    (after.objects file).bytes = (before.objects file).bytes ∧ ((after.objects file).position = 0 ∨ message ≠ "")

theorem leavesAsFound {file : Ref} (present : file < before.next) : LeavesAsFound lib isAnAttachment before file := by
  have found : Holds before file (before.objects file).bytes := ⟨present, rfl⟩
  have follows : Follows before (getInvalidPagesWithMessage lib file isAnAttachment) _ _ :=
    follows_getInvalidPagesWithMessage isAnAttachment found
  unfold LeavesAsFound
  rcases ended : (getInvalidPagesWithMessage lib file isAnAttachment).outcome before with ⟨_ | ⟨message, numbers⟩, after⟩
  · trivial
  · obtain ⟨_, _, _, _, touched, passed⟩ := follows.of_returned ended
    refine ⟨touched.bytes, (eq_or_ne message "").imp (fun empty => ?_) id⟩
    rw [(passed empty).2.object]
    rfl

/-- The streams of a process that has made no file yet, and where its libraries will
leave positions. -/
def start (choices : Nat → Nat) : Streams where
  objects _ := { bytes := [] }
  next := 0
  events := []
  choices := choices

/-- A run of `sanitise_file_contents`. -/
def run (lib : Libraries K σ) (choices : Nat → Nat) (encoded : Bytes) (allow isAnAttachment : Bool) :
    Except PyError Sanitisation.SanitisationDetails × Streams :=
  (sanitiseFileContents lib encoded allow isAnAttachment).outcome (start choices)

/-- Wherever libraries leave positions, every read from the current position begins
at the start and receives the whole file. Sanitisation gives what it gives on
values, and the file of its result is all of what was produced from the bytes that
were sent: validation leaves them as it found them. -/
theorem every_read_is_whole (lib : Libraries K σ) (choices : Nat → Nat) (encoded : Bytes)
    (allow isAnAttachment : Bool) :
    (∀ read ∈ (run lib choices encoded allow isAnAttachment).2.events, Whole read) ∧
    (∃ details, (run lib choices encoded allow isAnAttachment).1 = .ok details ∧
      details = Sanitisation.sanitiseFileContents lib encoded allow isAnAttachment ∧
      (details.message = none →
        EndsWithProduced lib encoded allow isAnAttachment details (run lib choices encoded allow isAnAttachment).2)) ∧
    ∀ before file, file < before.next → LeavesAsFound lib isAnAttachment before file := by
  have follows : Follows (start choices) (sanitiseFileContents lib encoded allow isAnAttachment) _ _ :=
    follows_sanitiseFileContents
  refine ⟨fun read member => ?_, ?_, fun before file => leavesAsFound⟩
  · obtain ⟨events, same, whole⟩ := follows.observed
    rw [run, same] at member
    exact whole read member
  · obtain ⟨details, after, ended, holds⟩ := follows.returns
    rw [run, ended]
    exact ⟨details, rfl, holds⟩

end Sanitise

section InMemory
open InMemoryLibraries

/-- A blank attachment is read to its end although every library leaves its files at
the seventh byte. -/
theorem blank_attachment_is_read_whole :
    ∃ earlier, (run libraries (fun _ => 7) (encodePages [blankPage]) false true).2.events =
        earlier ++ [⟨.sanitiseFileContents, 0, encodePages [blankPage], encodePages [blankPage]⟩] ∧
      ∀ read ∈ earlier, Whole read := by
  obtain ⟨whole, ⟨details, _, same, ends⟩, _⟩ :=
    every_read_is_whole libraries (fun _ => 7) (encodePages [blankPage]) false true
  rw [Sanitisation.blankAttachment_sanitised] at same
  obtain ⟨earlier, _, produced, _, events, _, file⟩ := ends (by rw [same])
  rw [same] at file
  rw [← Base64.b64encode_injective (Option.some.inj file)] at events
  exact ⟨earlier, events, fun read member => whole read (by rw [events]; exact List.mem_append_left _ member)⟩

end InMemory

end TemplatePreview.StreamPositions
