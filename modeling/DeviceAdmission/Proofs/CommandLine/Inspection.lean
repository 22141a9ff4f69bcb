import DeviceAdmission.CommandLine.Basic
import DeviceAdmission.Proofs.Certificate.AlternativeNames
import DeviceAdmission.Proofs.Certificate.Subjects
import DeviceAdmission.Proofs.Delegate.CommonName
import DeviceAdmission.Proofs.Json.Indented

/-!
# Reports on certificates

The tool walks through the blocks of a file and stops at the first fault, so what it has read before
must not be printed. `InOrder` says which files get a report, and `Covers` what stands in it: one
entry for each certificate, however many blocks of other kinds lie between. What an entry says of its
certificate is told by the names in it (`Entry.Describes`) and not by the readers of the tool.

* `summaries_eq_ok_iff`: a walk that ends well has met a readable certificate at each block that is
  marked as one, and no fault (`Walk`).
* `walk_iff`: such a walk is a fact about each block alone, in whatever order the blocks come.
* `Entry.describes_iff`: an entry that describes a certificate is the summary of it.
* `Covers.unique`, `parse_reportOf`: a report has one list of entries, and as JSON it reads as this
  list.
* `inspection_all_or_nothing`: a report on the whole file, or no output.
-/
namespace DeviceAdmission.CommandLine

open Certificate (Contents)
open Pem (Block Fault)

/-! ## Certificates among blocks -/

/-- The certificates that blocks hold: those with the label of certificates, in their order. -/
def certificates (bs : List Block) : List Certificate :=
  (bs.filter (·.label == "CERTIFICATE")).map fun b => ⟨b.octets⟩

theorem certificates_cons (b : Block) (bs : List Block) : certificates (b :: bs) =
    if b.label = "CERTIFICATE" then ⟨b.octets⟩ :: certificates bs else certificates bs := by
  unfold certificates
  rw [List.filter_cons]
  by_cases label : b.label = "CERTIFICATE" <;> simp [label]

example : certificates [⟨"CERTIFICATE", [1]⟩, ⟨"PRIVATE KEY", [2]⟩, ⟨"CERTIFICATE", [3]⟩] =
    [⟨[1]⟩, ⟨[3]⟩] := by decide

/-- A walk through blocks to their end, with the certificates that it meets. -/
inductive Walk : List (Except Fault Block) → List (Certificate × Contents) → Prop where
  | done : Walk [] []
  | foreign {block : Block} {rest : List (Except Fault Block)} {met : List (Certificate × Contents)}
      (other : block.label ≠ "CERTIFICATE") (later : Walk rest met) : Walk (.ok block :: rest) met
  | certificate {block : Block} {contents : Contents} {rest : List (Except Fault Block)}
      {met : List (Certificate × Contents)} (label : block.label = "CERTIFICATE")
      (read : Certificate.contents ⟨block.octets⟩ = .ok contents) (later : Walk rest met) :
      Walk (.ok block :: rest) ((⟨block.octets⟩, contents) :: met)

section

variable {block : Block} {rest : List (Except Fault Block)} {met : List (Certificate × Contents)}

theorem walk_foreign_iff (other : block.label ≠ "CERTIFICATE") :
    Walk (.ok block :: rest) met ↔ Walk rest met := by
  constructor
  · intro walk
    cases walk with
    | foreign _ later => exact later
    | certificate label => exact absurd label other
  · exact .foreign other

theorem walk_certificate_iff (label : block.label = "CERTIFICATE") :
    Walk (.ok block :: rest) met ↔ ∃ contents later, met = (⟨block.octets⟩, contents) :: later ∧
      Certificate.contents ⟨block.octets⟩ = .ok contents ∧ Walk rest later := by
  constructor
  · intro walk
    cases walk with
    | foreign other => exact absurd label other
    | certificate _ read later => exact ⟨_, _, rfl, read, later⟩
  · rintro ⟨contents, later, rfl, read, walk⟩
    exact .certificate label read walk

end

theorem Walk.wellFormed {blocks : List (Except Fault Block)} {met : List (Certificate × Contents)}
    (walk : Walk blocks met) : ∃ bs : List Block, blocks = bs.map .ok := by
  induction walk with
  | done => exact ⟨[], rfl⟩
  | foreign other later ih | certificate label read later ih =>
    obtain ⟨bs, rfl⟩ := ih
    exact ⟨_ :: bs, rfl⟩

/-- Among well formed blocks it is a matter of each certificate alone. -/
theorem walk_iff (bs : List Block) (met : List (Certificate × Contents)) :
    Walk (bs.map .ok) met ↔
      met.map (·.1) = certificates bs ∧ ∀ e ∈ met, e.1.contents = .ok e.2 := by
  induction bs generalizing met with
  | nil =>
    constructor
    · rintro ⟨⟩
      exact ⟨rfl, nofun⟩
    · rintro ⟨listed, -⟩
      obtain rfl : met = [] := List.map_eq_nil_iff.1 listed
      exact .done
  | cons block bs ih =>
    rw [List.map_cons, certificates_cons]
    by_cases label : block.label = "CERTIFICATE"
    · rw [if_pos label, walk_certificate_iff label]
      constructor
      · rintro ⟨contents, later, rfl, read, walk⟩
        obtain ⟨listed, reads⟩ := (ih later).1 walk
        exact ⟨by rw [List.map_cons, listed], List.forall_mem_cons.2 ⟨read, reads⟩⟩
      · rintro ⟨listed, reads⟩
        obtain ⟨⟨c, contents⟩, later, rfl, same, others⟩ := List.map_eq_cons_iff.1 listed
        obtain rfl : c = ⟨block.octets⟩ := same
        obtain ⟨read, reads⟩ := List.forall_mem_cons.1 reads
        exact ⟨contents, later, rfl, read, (ih later).2 ⟨others, reads⟩⟩
    · rw [if_neg label, walk_foreign_iff label, ih]

/-! ## Summaries -/

namespace Summary

/-- What is kept of a readable certificate. -/
def of (e : Certificate × Contents) : Summary :=
  ⟨e.1.fingerprint, e.2.subject.text, e.2.subject.commonName?, e.2.alternativeNames⟩

theorem ofCertificate_eq (c : Certificate) :
    ofCertificate c = c.contents.map fun contents => of (c, contents) := by
  unfold ofCertificate Certificate.subjectText Certificate.commonName? Certificate.alternativeNames
  cases c.contents <;> rfl

end Summary

section

variable {index : Nat} {block : Block} {rest : List (Except Fault Block)}

theorem summaries_foreign (other : block.label ≠ "CERTIFICATE") :
    (summaries index (.ok block :: rest)).2 = (summaries (index + 1) rest).2 := by
  have unmarked : ¬ (block.label == certificateLabel) = true := mt beq_iff_eq.1 other
  rw [summaries]
  simp only [if_neg unmarked]

theorem summaries_of_contents {contents : Contents} (label : block.label = "CERTIFICATE")
    (read : Certificate.contents ⟨block.octets⟩ = .ok contents) :
    (summaries index (.ok block :: rest)).2 =
      (summaries (index + 1) rest).2.map (Summary.of (⟨block.octets⟩, contents) :: ·) := by
  have marked : (block.label == certificateLabel) = true := beq_iff_eq.2 label
  rw [summaries]
  simp only [if_pos marked, Summary.ofCertificate_eq, read, Except.map]

theorem summaries_of_defect {defect : Certificate.Defect} (label : block.label = "CERTIFICATE")
    (read : Certificate.contents ⟨block.octets⟩ = .error defect) :
    (summaries index (.ok block :: rest)).2 = .error (.malformedCertificate defect) := by
  have marked : (block.label == certificateLabel) = true := beq_iff_eq.2 label
  rw [summaries]
  simp only [if_pos marked, Summary.ofCertificate_eq, read, Except.map]

end

/-- The summaries are those of a walk to the end; a walk that meets a fault has none. -/
theorem summaries_eq_ok_iff (index : Nat) (blocks : List (Except Fault Block)) (ss : List Summary) :
    (summaries index blocks).2 = .ok ss ↔ ∃ met, Walk blocks met ∧ ss = met.map Summary.of := by
  induction blocks generalizing index ss with
  | nil =>
    constructor
    · rintro ⟨⟩
      exact ⟨[], .done, rfl⟩
    · rintro ⟨met, ⟨⟩, rfl⟩
      rfl
  | cons first rest ih =>
    cases first with
    | error fault =>
      constructor
      · rintro ⟨⟩
      · rintro ⟨met, ⟨⟩, -⟩
    | ok block =>
      by_cases label : block.label = "CERTIFICATE"
      · simp only [walk_certificate_iff label]
        cases read : Certificate.contents ⟨block.octets⟩ with
        | error defect =>
          rw [summaries_of_defect label read]
          constructor
          · rintro ⟨⟩
          · rintro ⟨met, ⟨contents, later, -, found, -⟩, -⟩
            cases found
        | ok contents =>
          rw [summaries_of_contents label read]
          constructor
          · intro done
            obtain ⟨others, rest, rfl⟩ := Json.exists_of_map done
            obtain ⟨met, walk, rfl⟩ := (ih (index + 1) others).1 rest
            exact ⟨_, ⟨contents, met, rfl, rfl, walk⟩, rfl⟩
          · rintro ⟨met, ⟨contents, later, rfl, found, walk⟩, rfl⟩
            cases found
            rw [(ih (index + 1) _).2 ⟨later, walk, rfl⟩]
            rfl
      · simp only [walk_foreign_iff label]
        rw [summaries_foreign label, ih]

/-! ## Reports -/

/-- A certificate in a report, with its number and what the report says of it. -/
@[ext]
structure Entry where
  number : Nat
  certificate : Certificate
  subject : String
  commonName : Option String
  alternativeNames : List String

namespace Entry

/-- The SHA-256 digest of the certificate. -/
def digest (e : Entry) : String := Text.Hex.encode (Digest.Sha256.digest e.certificate.der)

/-- The alternative names, or that there are none. -/
def shownNames (e : Entry) : String :=
  if e.alternativeNames.isEmpty then "(none)" else ", ".intercalate e.alternativeNames

/-- The entry in a report as text. -/
def paragraph (e : Entry) : String :=
  "certificate #" ++ toString e.number ++ "\n" ++
    ("  sha256: " ++ e.digest ++ "\n") ++
    ("  subject: " ++ e.subject ++ "\n") ++
    ("  subject CN: " ++ e.commonName.getD "(none)" ++ "\n") ++
    ("  SANs: " ++ e.shownNames ++ "\n")

/-- The entry in a report as JSON. -/
def toJson (e : Entry) : Json :=
  .object
    [("index", .ofNat e.number), ("sha256", .text e.digest), ("subject", .text e.subject),
      ("common_name", e.commonName.elim .null .text),
      ("subject_alt_names", .array (e.alternativeNames.map .text))]

/-- What the entry says is what stands in the certificate: its subject, the first common name in it
that is readable, if there is one, and the alternative names in its extensions. -/
structure Describes (e : Entry) (contents : Contents) : Prop where
  read : e.certificate.contents = .ok contents
  subject : contents.subject.Spells e.subject
  commonName : ∀ name, e.commonName = some name ↔ contents.subject.First name
  alternativeNames : Certificate.Mentions contents.extensions e.alternativeNames

/-- An entry on a readable certificate. -/
def of (number : Nat) (e : Certificate × Contents) : Entry :=
  ⟨number, e.1, e.2.subject.text, e.2.subject.commonName?, e.2.alternativeNames⟩

theorem describes_iff (e : Entry) (contents : Contents) :
    e.Describes contents ↔
      e.certificate.contents = .ok contents ∧ e = of e.number (e.certificate, contents) := by
  constructor
  · rintro ⟨read, subject, commonName, names⟩
    refine ⟨read, Entry.ext rfl rfl ?_ ?_ ?_⟩
    · exact (Certificate.Name.spells_iff _ _).1 subject
    · apply Option.ext
      intro name
      rw [commonName, ← Certificate.Name.commonName?_eq_some_iff]
      rfl
    · exact (Certificate.mentions_iff _ _).1 names
  · rintro ⟨read, same⟩
    rw [same]
    exact ⟨read, (Certificate.Name.spells_iff _ _).2 rfl,
      Certificate.Name.commonName?_eq_some_iff _, (Certificate.mentions_iff _ _).2 rfl⟩

end Entry

/-- The text of a report. -/
def reportOf (json : Bool) (entries : List Entry) : String :=
  if json then (Json.array (entries.map Entry.toJson)).renderIndented ++ "\n"
  else String.join (entries.map Entry.paragraph)

/-- The entries are those of the certificates among the blocks: one for each, in their order,
numbered from zero without gaps, with what that certificate says. -/
structure Covers (bs : List Block) (entries : List Entry) : Prop where
  certificates : entries.map (·.certificate) = certificates bs
  numbers : entries.map (·.number) = List.range entries.length
  described : ∀ e ∈ entries, ∃ contents, e.Describes contents

/-- The entries of what a walk has met. -/
def entriesOf (met : List (Certificate × Contents)) : List Entry := met.mapIdx Entry.of

theorem covers_entriesOf {bs : List Block} {met : List (Certificate × Contents)}
    (walk : Walk (bs.map .ok) met) : Covers bs (entriesOf met) := by
  obtain ⟨listed, reads⟩ := (walk_iff bs met).1 walk
  constructor
  · rw [← listed]
    apply List.ext_getElem <;> simp [entriesOf, Entry.of]
  · apply List.ext_getElem <;> simp [entriesOf, Entry.of]
  · intro e member
    obtain ⟨number, inside, rfl⟩ := List.mem_mapIdx.1 member
    exact ⟨_, (Entry.describes_iff _ _).2 ⟨reads _ (List.getElem_mem inside), rfl⟩⟩

theorem Covers.unique {bs : List Block} {entries others : List Entry} (h : Covers bs entries)
    (h' : Covers bs others) : entries = others := by
  have certificates := h.certificates.trans h'.certificates.symm
  have size : entries.length = others.length := by simpa using congrArg List.length certificates
  apply List.ext_getElem size
  intro i inside inside'
  have number : entries[i].number = others[i].number := by
    have numbers := h.numbers.trans (size ▸ h'.numbers.symm)
    simpa [inside, inside'] using congrArg (·[i]?) numbers
  have certificate : entries[i].certificate = others[i].certificate := by
    simpa [inside, inside'] using congrArg (·[i]?) certificates
  obtain ⟨contents, describes⟩ := h.described _ (List.getElem_mem inside)
  obtain ⟨contents', describes'⟩ := h'.described _ (List.getElem_mem inside')
  obtain ⟨read, same⟩ := (Entry.describes_iff _ _).1 describes
  obtain ⟨read', same'⟩ := (Entry.describes_iff _ _).1 describes'
  rw [certificate, read'] at read
  cases read
  rw [same, same', number, certificate]

theorem lines_of (number : Nat) (e : Certificate × Contents) :
    String.join (((Summary.of e).lines number).map (· ++ "\n")) = (Entry.of number e).paragraph := by
  have digest : e.1.fingerprint.hex = (Entry.of number e).digest := rfl
  unfold Summary.lines Entry.paragraph Entry.shownNames
  cases bare : e.2.alternativeNames.isEmpty <;>
    simp only [Summary.of, Entry.of, List.map_cons, List.map_nil, bare, digest, if_true,
      Bool.false_eq_true, if_false, String.join_cons, String.join_nil, String.append_assoc,
      String.append_empty]

theorem toJson_of (number : Nat) (e : Certificate × Contents) :
    (Summary.of e).toJson number = (Entry.of number e).toJson := by
  unfold Summary.toJson Entry.toJson Entry.of Summary.of
  cases e.2.subject.commonName? <;> rfl

theorem join_flatten (paragraphs : List (List String)) :
    String.join (paragraphs.flatten.map (· ++ "\n")) =
      String.join (paragraphs.map fun lines => String.join (lines.map (· ++ "\n"))) := by
  induction paragraphs with
  | nil => rfl
  | cons lines rest ih =>
    rw [List.flatten_cons, List.map_append, String.join_append, ih, List.map_cons, String.join_cons]

theorem report_of_met (json : Bool) (met : List (Certificate × Contents)) :
    report json (met.map Summary.of) = reportOf json (entriesOf met) := by
  have items : (met.map Summary.of).mapIdx Summary.toJson = (entriesOf met).map Entry.toJson := by
    apply List.ext_getElem <;> simp [entriesOf, toJson_of]
  have paragraphs : ((met.map Summary.of).mapIdx Summary.lines).map
      (fun lines => String.join (lines.map (· ++ "\n"))) = (entriesOf met).map Entry.paragraph := by
    apply List.ext_getElem <;> simp [entriesOf, lines_of]
  unfold report reportOf
  rw [items, join_flatten, paragraphs]

theorem reportOf_ne_empty {json : Bool} {entries : List Entry} (some_ : entries ≠ []) :
    reportOf json entries ≠ "" := by
  obtain ⟨e, rest, rfl⟩ := List.exists_cons_of_ne_nil some_
  unfold reportOf
  cases json with
  | true =>
    intro empty
    exact absurd (String.append_eq_empty_iff.1 empty).2 (by decide)
  | false =>
    intro empty
    rw [if_neg Bool.false_ne_true, List.map_cons, String.join_cons] at empty
    unfold Entry.paragraph at empty
    simp only [String.append_assoc] at empty
    exact absurd (String.append_eq_empty_iff.1 empty).1 (by decide)

/-- The report as JSON reads as the list of its entries. An index is read back up to the greatest
number that is. -/
theorem parse_reportOf {bs : List Block} {entries : List Entry} (covers : Covers bs entries)
    (few : entries.length ≤ 0x1_0000_0000_0000_0000) :
    Json.parse (reportOf true entries) = .ok (Json.array (entries.map Entry.toJson)).canonical := by
  have within : ∀ e ∈ entries, Json.Within 127 e.toJson := by
    intro e member
    have number : e.number < entries.length := by
      have listed : e.number ∈ entries.map (·.number) := List.mem_map_of_mem member
      rwa [covers.numbers, List.mem_range] at listed
    have exact_ : (Json.Number.whole (e.number : Int)).IsExact := .whole (by omega) (by omega)
    have names : Json.ItemsWithin 125 (e.alternativeNames.map .text) :=
      (Json.itemsWithin_iff _ _).2 (List.forall_mem_map.2 fun _ _ => trivial)
    have commonName : Json.Within 126 (e.commonName.elim .null .text) := by
      cases e.commonName <;> trivial
    exact ⟨by decide, exact_, trivial, trivial, commonName, ⟨by decide, names⟩, trivial⟩
  have whole : Json.Within Json.depthLimit (.array (entries.map Entry.toJson)) :=
    ⟨by decide, (Json.itemsWithin_iff _ _).2 (List.forall_mem_map.2 within)⟩
  have lineFeed : Json.IsGap (Json.octetsOf "\n") := by
    have single : Json.octetsOf "\n" = [10] := by decide
    intro b member
    rw [single] at member
    rw [List.mem_singleton.1 member]
    rfl
  exact Json.parse_renderIndented whole lineFeed

/-! ## All or nothing -/

/-- A file that gets a report: its blocks are well formed, some are marked as certificates, and those
can be read as certificates. -/
structure InOrder (octets : List UInt8) (bs : List Block) : Prop where
  wellFormed : Pem.blocks octets = bs.map .ok
  present : ∃ b ∈ bs, b.label = "CERTIFICATE"
  readable : ∀ b ∈ bs, b.label = "CERTIFICATE" →
    ∃ contents, Certificate.contents ⟨b.octets⟩ = .ok contents

section

variable {octets : List UInt8} {bs : List Block} {met : List (Certificate × Contents)}

theorem mem_certificates_iff {c : Certificate} :
    c ∈ certificates bs ↔ ∃ b ∈ bs, b.label = "CERTIFICATE" ∧ c = ⟨b.octets⟩ := by
  simp only [certificates, List.mem_map, List.mem_filter, beq_iff_eq, and_assoc]
  constructor
  · rintro ⟨b, member, label, rfl⟩
    exact ⟨b, member, label, rfl⟩
  · rintro ⟨b, member, label, rfl⟩
    exact ⟨b, member, label, rfl⟩

theorem exists_walk (readable : ∀ b ∈ bs, b.label = "CERTIFICATE" →
    ∃ contents, Certificate.contents ⟨b.octets⟩ = .ok contents) :
    ∃ met, Walk (bs.map .ok) met := by
  induction bs with
  | nil => exact ⟨[], .done⟩
  | cons b bs ih =>
    obtain ⟨met, later⟩ := ih fun c member => readable c (List.mem_cons_of_mem _ member)
    by_cases label : b.label = "CERTIFICATE"
    · obtain ⟨contents, read⟩ := readable b List.mem_cons_self label
      exact ⟨_, .certificate label read later⟩
    · exact ⟨met, .foreign label later⟩

/-- The files in order are those through which a walk leads that meets a certificate. -/
theorem inOrder_iff : InOrder octets bs ↔
    ∃ met, Pem.blocks octets = bs.map .ok ∧ Walk (bs.map .ok) met ∧ met ≠ [] := by
  constructor
  · rintro ⟨wellFormed, ⟨b, member, label⟩, readable⟩
    obtain ⟨met, walk⟩ := exists_walk readable
    refine ⟨met, wellFormed, walk, ?_⟩
    rintro rfl
    have here := mem_certificates_iff.2 ⟨b, member, label, rfl⟩
    rw [← ((walk_iff bs []).1 walk).1] at here
    cases here
  · rintro ⟨met, wellFormed, walk, some_⟩
    obtain ⟨listed, reads⟩ := (walk_iff bs met).1 walk
    refine ⟨wellFormed, ?_, ?_⟩
    · obtain ⟨e, rest, rfl⟩ := List.exists_cons_of_ne_nil some_
      have here : e.1 ∈ certificates bs := listed ▸ List.mem_cons_self
      obtain ⟨b, member, label, -⟩ := mem_certificates_iff.1 here
      exact ⟨b, member, label⟩
    · intro b member label
      have here := mem_certificates_iff.2 ⟨b, member, label, rfl⟩
      rw [← listed] at here
      obtain ⟨⟨c, contents⟩, found, rfl⟩ := List.mem_map.1 here
      exact ⟨contents, reads _ found⟩

namespace InOrder

theorem unique {others : List Block} (h : InOrder octets bs) (h' : InOrder octets others) :
    bs = others := by
  have same := h.wellFormed.symm.trans h'.wellFormed
  exact (List.map_inj_right fun _ _ => Except.ok.inj).1 same

theorem exists_covers (h : InOrder octets bs) : ∃ entries, Covers bs entries := by
  obtain ⟨met, -, walk, -⟩ := inOrder_iff.1 h
  exact ⟨_, covers_entriesOf walk⟩

theorem entries_ne_nil {entries : List Entry} (h : InOrder octets bs) (covers : Covers bs entries) :
    entries ≠ [] := by
  rintro rfl
  obtain ⟨b, member, label⟩ := h.present
  have here := mem_certificates_iff.2 ⟨b, member, label, rfl⟩
  rw [← covers.certificates] at here
  cases here

end InOrder

theorem inspect_eq (json : Bool) : (inspect json octets).2 =
    match (summaries 0 (Pem.blocks octets)).2 with
    | .error e => .error e
    | .ok [] => .error .noCertificates
    | .ok (s :: ss) => .ok (report json (s :: ss)) := by
  unfold inspect
  rcases summaries 0 (Pem.blocks octets) with ⟨records, e | _ | _⟩ <;> rfl

/-- The inspection succeeds for the files in order, and gives the report on what they hold. -/
theorem inspect_eq_ok_iff (json : Bool) (text : String) : (inspect json octets).2 = .ok text ↔
    ∃ bs entries, InOrder octets bs ∧ Covers bs entries ∧ text = reportOf json entries := by
  rw [inspect_eq]
  constructor
  · intro done
    cases result : (summaries 0 (Pem.blocks octets)).2 with
    | error e => rw [result] at done; cases done
    | ok ss =>
      obtain ⟨met, walk, rfl⟩ := (summaries_eq_ok_iff 0 _ ss).1 result
      obtain ⟨bs, wellFormed⟩ := walk.wellFormed
      rw [wellFormed] at walk
      rw [result] at done
      cases met with
      | nil => cases done
      | cons e met =>
        cases done
        refine ⟨bs, _, inOrder_iff.2 ⟨_, wellFormed, walk, List.cons_ne_nil e met⟩,
          covers_entriesOf walk, ?_⟩
        exact report_of_met json (e :: met)
  · rintro ⟨bs, entries, inOrder, covers, rfl⟩
    obtain ⟨met, wellFormed, walk, some_⟩ := inOrder_iff.1 inOrder
    rw [(summaries_eq_ok_iff 0 _ _).2 ⟨met, wellFormed ▸ walk, rfl⟩]
    obtain ⟨e, rest, rfl⟩ := List.exists_cons_of_ne_nil some_
    have same := covers.unique (covers_entriesOf walk)
    rw [same, ← report_of_met]
    rfl

end

/-- What the tool does about the content of a file. -/
structure AllOrNothing (json : Bool) (octets : List UInt8) (outcome : Outcome) : Prop where
  /-- Something is printed exactly of the files in order. -/
  prints : outcome.output ≠ "" ↔ ∃ bs, InOrder octets bs
  /-- It is the report on all certificates of the file. -/
  reported : ∀ bs, InOrder octets bs → outcome.exitCode = 0 ∧
    ∃ entries, Covers bs entries ∧ outcome.output = reportOf json entries
  /-- Of any other file nothing is printed, wherever the fault is. -/
  withheld : (¬ ∃ bs, InOrder octets bs) → outcome.exitCode = 1 ∧ outcome.output = ""

namespace Invocation

variable {i : Invocation} {path : String} {json : Bool} {files : Files.System} {shown : String}
  {environment : Option String} {c : Config} {filter : Log.Filter} {octets : List UInt8}

/-- The result of an inspection decides what the tool prints, and its exit status. -/
theorem run_inspect (asks : i.command = .inspectCertificates path json)
    (started : i.start files shown environment = .ok (c, filter))
    (read : files.read path = .ok octets) :
    match (inspect json octets).2 with
    | .ok text => (i.run files shown environment).exitCode = 0 ∧
        (i.run files shown environment).output = text
    | .error _ => (i.run files shown environment).exitCode = 1 ∧
        (i.run files shown environment).output = "" := by
  unfold run Command.run
  simp only [started, asks, read]
  rcases inspect json octets with ⟨records, e | text⟩ <;> exact ⟨rfl, rfl⟩

theorem run_inspect_allOrNothing (asks : i.command = .inspectCertificates path json)
    (started : i.start files shown environment = .ok (c, filter))
    (read : files.read path = .ok octets) :
    AllOrNothing json octets (i.run files shown environment) := by
  have ran := run_inspect asks started read
  cases result : (inspect json octets).2 with
  | ok text =>
    rw [result] at ran
    obtain ⟨exit, output⟩ := ran
    obtain ⟨bs, entries, inOrder, covers, rfl⟩ := (inspect_eq_ok_iff json text).1 result
    refine ⟨?_, ?_, fun none => absurd ⟨bs, inOrder⟩ none⟩
    · rw [output]
      exact ⟨fun _ => ⟨bs, inOrder⟩, fun _ => reportOf_ne_empty (inOrder.entries_ne_nil covers)⟩
    · intro others inOrder'
      rw [inOrder'.unique inOrder]
      exact ⟨exit, entries, covers, output⟩
  | error e =>
    rw [result] at ran
    obtain ⟨exit, output⟩ := ran
    have none : ¬ ∃ bs, InOrder octets bs := by
      rintro ⟨bs, inOrder⟩
      obtain ⟨entries, covers⟩ := inOrder.exists_covers
      rw [(inspect_eq_ok_iff json _).2 ⟨bs, entries, inOrder, covers, rfl⟩] at result
      cases result
    refine ⟨?_, fun bs inOrder => absurd ⟨bs, inOrder⟩ none, fun _ => ⟨exit, output⟩⟩
    rw [output]
    exact ⟨fun printed => absurd rfl printed, fun some_ => absurd some_ none⟩

end Invocation

/-- The outcome of every inspection of a file that can be read, once the tool has started. -/
structure InspectionAllOrNothing : Prop where
  /-- A report or no output. -/
  outcome : ∀ (i : Invocation) (path : String) (json : Bool) (files : Files.System) (shown : String)
      (environment : Option String) (c : Config) (filter : Log.Filter) (octets : List UInt8),
    i.command = .inspectCertificates path json →
    i.start files shown environment = .ok (c, filter) → files.read path = .ok octets →
    AllOrNothing json octets (i.run files shown environment)
  /-- Blocks have no two lists of entries. -/
  unique : ∀ (bs : List Block) (entries others : List Entry),
    Covers bs entries → Covers bs others → entries = others
  /-- A report as JSON can be read, and holds these entries and nothing else. -/
  readBack : ∀ (bs : List Block) (entries : List Entry), Covers bs entries →
    entries.length ≤ 0x1_0000_0000_0000_0000 →
    Json.parse (reportOf true entries) = .ok (Json.array (entries.map Entry.toJson)).canonical

theorem inspection_all_or_nothing : InspectionAllOrNothing where
  outcome _ _ _ _ _ _ _ _ _ asks started read :=
    Invocation.run_inspect_allOrNothing asks started read
  unique _ _ _ covers others := covers.unique others
  readBack _ _ covers few := parse_reportOf covers few

end DeviceAdmission.CommandLine
