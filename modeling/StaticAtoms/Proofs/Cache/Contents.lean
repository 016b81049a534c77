import StaticAtoms.Proofs.Cache.Entries

/-!
# What a file has to begin with

`Header.Opens` and `Entry.Opens` say field by field what a file begins with that is read as an entry.
Of all byte strings, these and no others are read, with the same fields: `Header.read_eq_ok_iff` and
`Entry.load_eq_ok_iff`.  What follows an entry in its file does not matter, so no file that is a proper
part of an entry is one for anything: `Entry.not_opens_part`.
-/

namespace StaticAtoms.Cache

/-! ## Fields -/

variable {bytes rest : Bytes}

theorem take?_eq_some_iff {count : Nat} {field : Bytes} :
    take? count bytes = some (field, rest) ↔ field.length = count ∧ bytes = field ++ rest := by
  constructor
  · intro split
    rw [take?] at split
    split at split
    next enough =>
      cases split
      exact ⟨List.length_take_of_le enough, (List.take_append_drop count bytes).symm⟩
    next => cases split
  · rintro ⟨length, rfl⟩
    exact take?_append length rest

theorem number?_eq_some_iff {width value : Nat} :
    number? width bytes = some (value, rest) ↔
      value < Nat.pow 256 width ∧ bytes = LittleEndian.encode width value ++ rest := by
  constructor
  · intro read
    simp only [number?, Option.bind_eq_bind, Option.bind_eq_some_iff, Option.pure_def,
      Option.some.injEq, Prod.mk.injEq, Prod.exists] at read
    obtain ⟨field, behind, taken, rfl, rfl⟩ := read
    obtain ⟨rfl, rfl⟩ := take?_eq_some_iff.1 taken
    exact ⟨LittleEndian.decode_lt field, by rw [LittleEndian.encode_decode]⟩
  · rintro ⟨fits, rfl⟩
    exact number?_append fits rest

theorem text?_eq_some_iff {limit : Nat} {text : String} :
    text? limit bytes = some (text, rest) ↔
      ((Text.utf8 text).length < lengthLimit ∧ (Text.utf8 text).length ≤ limit) ∧
        bytes = LittleEndian.encode 4 (Text.utf8 text).length ++ Text.utf8 text ++ rest := by
  constructor
  · intro read
    simp only [text?, Option.bind_eq_bind, Option.bind_eq_some_iff, Option.pure_def,
      Option.ite_none_left_eq_some, Option.some.injEq, Prod.mk.injEq, Prod.exists] at read
    obtain ⟨length, behind, counted, within, field, behind, taken, decoded, valid, rfl, rfl⟩ := read
    obtain ⟨fits, rfl⟩ := number?_eq_some_iff.1 counted
    obtain ⟨rfl, rfl⟩ := take?_eq_some_iff.1 taken
    obtain rfl := Text.ofUtf8?_eq_some_iff.1 valid
    exact ⟨⟨fits, Nat.not_lt.1 within⟩, (List.append_assoc _ _ _).symm⟩
  · rintro ⟨⟨short, within⟩, rfl⟩
    exact text?_append (encodeText?_eq_some_iff.2 ⟨short, rfl⟩) within rest

theorem digest?_eq_some_iff {digest : Digest} :
    digest? bytes = some (digest, rest) ↔ bytes = digest.bytes ++ rest := by
  constructor
  · intro read
    simp only [digest?, Option.bind_eq_bind, Option.bind_eq_some_iff, Option.pure_def,
      Option.some.injEq, Prod.mk.injEq, Prod.exists] at read
    obtain ⟨field, behind, taken, decoded, valid, rfl, rfl⟩ := read
    obtain ⟨length, rfl⟩ := take?_eq_some_iff.1 taken
    simp only [Digest.ofBytes?, length, ↓reduceDIte, Option.some.injEq] at valid
    rw [← valid]
  · rintro rfl
    exact digest?_append digest rest

/-! ## Headers -/

namespace Header

variable {header : Header} {content : Bytes}

/-- The bytes of a header's fields, in order. -/
def spelling (header : Header) : Bytes :=
  magic ++ LittleEndian.encode 2 header.formatVersion ++
    LittleEndian.encode 4 (Text.utf8 header.tool).length ++ Text.utf8 header.tool ++
    header.key.bytes ++ LittleEndian.encode 4 header.outputLength

/-- Whether the numbers in a header fit into their fields of two and four bytes. -/
structure Fits (header : Header) : Prop where
  formatVersion : header.formatVersion < 0x10000
  tool : (Text.utf8 header.tool).length < 0x100000000
  outputLength : header.outputLength < 0x100000000

/-- Whether a file begins with a header.  The output that it announces is not longer than the file. -/
structure Opens (header : Header) (content : Bytes) : Prop where
  fits : header.Fits
  leads : header.spelling <+: content
  within : header.outputLength ≤ content.length

theorem fields?_eq_some_iff {limit : Nat} : fields? limit bytes = some (header, rest) ↔
    header.Fits ∧ (Text.utf8 header.tool).length ≤ limit ∧
      magic ++ bytes = header.spelling ++ rest := by
  simp only [fields?, Option.bind_eq_bind, Option.bind_eq_some_iff, Option.pure_def,
    Option.some.injEq, Prod.mk.injEq, Prod.exists, number?_eq_some_iff, text?_eq_some_iff,
    digest?_eq_some_iff, spelling, List.append_assoc, List.append_cancel_left_eq]
  constructor
  · rintro ⟨version, _, ⟨small, rfl⟩, tool, _, ⟨⟨short, within⟩, rfl⟩, key, _, rfl, length, _,
      ⟨fits, rfl⟩, rfl, rfl⟩
    exact ⟨⟨small, short, fits⟩, within, rfl⟩
  · rintro ⟨fits, within, rfl⟩
    exact ⟨_, _, ⟨fits.formatVersion, rfl⟩, _, _, ⟨⟨fits.tool, within⟩, rfl⟩, _, _, rfl, _, _,
      ⟨fits.outputLength, rfl⟩, rfl, rfl⟩

theorem length_tool_le (header : Header) : (Text.utf8 header.tool).length ≤ header.spelling.length := by
  simp only [spelling, List.length_append]
  omega

theorem read_eq_ok_iff : read content = .ok (header, rest) ↔
    header.Fits ∧ content = header.spelling ++ rest ∧ header.outputLength ≤ content.length := by
  constructor
  · intro found
    rw [read] at found
    split at found
    next => cases found
    next first behind taken =>
      obtain ⟨-, rfl⟩ := take?_eq_some_iff.1 taken
      split at found
      next => cases found
      next isMagic =>
        obtain rfl := Decidable.not_not.1 isMagic
        split at found
        next => cases found
        next fields =>
          split at found
          next => cases found
          next within =>
            cases found
            obtain ⟨fits, -, same⟩ := fields?_eq_some_iff.1 fields
            exact ⟨fits, same, Nat.not_lt.1 within⟩
  · rintro ⟨fits, rfl, within⟩
    have split : ∃ behind, header.spelling ++ rest = magic ++ behind := by
      simp only [spelling, List.append_assoc]
      exact ⟨_, rfl⟩
    obtain ⟨behind, same⟩ := split
    -- The tool version is in front of the rest, so that its length is not above that of the file.
    have inside : (Text.utf8 header.tool).length ≤ (header.spelling ++ rest).length := by
      rw [List.length_append]
      exact Nat.le_trans header.length_tool_le (Nat.le_add_right _ _)
    rw [same] at within inside ⊢
    exact read_of_fields (fields?_eq_some_iff.2 ⟨fits, inside, same.symm⟩) within

/-- A header is read from the files that it opens. -/
theorem opens_iff : header.Opens content ↔ ∃ rest, read content = .ok (header, rest) := by
  constructor
  · rintro ⟨fits, ⟨rest, rfl⟩, within⟩
    exact ⟨rest, read_eq_ok_iff.2 ⟨fits, rfl, within⟩⟩
  · rintro ⟨rest, found⟩
    obtain ⟨fits, rfl, within⟩ := read_eq_ok_iff.1 found
    exact ⟨fits, List.prefix_append _ _, within⟩

theorem Opens.unique {other : Header} (opens : header.Opens content) (also : other.Opens content) :
    header = other := by
  obtain ⟨rest, read⟩ := opens_iff.1 opens
  obtain ⟨_, again⟩ := opens_iff.1 also
  cases read.symm.trans again
  rfl

end Header

/-! ## Entries -/

namespace Entry

variable {entry other : Entry} {content : Bytes}

/-- The header in front of an entry's output. -/
def header (entry : Entry) : Header :=
  ⟨Cache.formatVersion, entry.tool, entry.key, (Text.utf8 entry.output).length⟩

/-- Whether a file begins with an entry: its header, and its output. -/
structure Opens (entry : Entry) (content : Bytes) : Prop where
  fits : entry.header.Fits
  leads : entry.header.spelling ++ Text.utf8 entry.output <+: content

theorem Opens.opens_header (opens : entry.Opens content) : entry.header.Opens content where
  fits := opens.fits
  leads := (List.prefix_append _ _).trans opens.leads
  within := by
    have length := opens.leads.length_le
    rw [List.length_append] at length
    exact Nat.le_trans (Nat.le_add_left _ _) length

theorem load_eq_ok_iff {key : Digest} {tool output : String} :
    load content key tool = .ok output ↔ Opens ⟨tool, key, output⟩ content := by
  constructor
  · intro loaded
    rw [load] at loaded
    split at loaded
    next => cases loaded
    next found rest read =>
      obtain ⟨fits, rfl, -⟩ := Header.read_eq_ok_iff.1 read
      split at loaded
      next => cases loaded
      next known =>
        simp only [not_or, Decidable.not_not] at known
        obtain ⟨version, rfl, rfl⟩ := known
        split at loaded
        next => cases loaded
        next field behind taken =>
          obtain ⟨length, rfl⟩ := take?_eq_some_iff.1 taken
          split at loaded
          next => cases loaded
          next valid =>
            cases loaded
            obtain rfl := Text.ofUtf8?_eq_some_iff.1 valid
            -- The header in the file is the one of the entry that was asked for.
            have same : header ⟨found.tool, found.key, output⟩ = found := by
              cases found
              cases version
              cases length
              rfl
            exact ⟨same ▸ fits, behind, by rw [same, List.append_assoc]⟩
  · intro opens
    obtain ⟨fits, ⟨behind, rfl⟩⟩ := opens
    rw [List.append_assoc]
    have within : (header ⟨tool, key, output⟩).outputLength ≤
        ((header ⟨tool, key, output⟩).spelling ++ (Text.utf8 output ++ behind)).length := by
      simp only [header, List.length_append]
      omega
    have read := Header.read_eq_ok_iff.2 ⟨fits, rfl, within⟩
    have whole := take?_append (rfl : (Text.utf8 output).length = _) behind
    rw [load, read]
    simp [header, whole, Text.ofUtf8?_utf8]

/-- A file begins with one entry at most. -/
theorem Opens.unique (opens : entry.Opens content) (also : other.Opens content) : entry = other := by
  have headers : entry.header = other.header := opens.opens_header.unique also.opens_header
  have tools : entry.tool = other.tool := congrArg Header.tool headers
  have keys : entry.key = other.key := congrArg Header.key headers
  have loaded := load_eq_ok_iff.2 opens
  have again := load_eq_ok_iff.2 also
  rw [tools, keys] at loaded
  cases entry
  cases other
  cases tools
  cases keys
  cases loaded.symm.trans again
  rfl

/-! ## Parts of entries -/

theorem Opens.append (opens : entry.Opens content) (behind : Bytes) :
    entry.Opens (content ++ behind) :=
  ⟨opens.fits, opens.leads.trans (List.prefix_append _ _)⟩

/-- The file of an entry has its header and its output in it, and nothing else. -/
theorem encode_eq_ok_iff : entry.encode = .ok content ↔
    entry.header.Fits ∧ content = entry.header.spelling ++ Text.utf8 entry.output := by
  constructor
  · intro encoded
    rw [encode] at encoded
    split at encoded
    next => cases encoded
    next tool toolEncoded =>
      dsimp only at encoded
      split at encoded
      next => cases encoded
      next output outputEncoded =>
        cases encoded
        obtain ⟨shortTool, rfl⟩ := encodeText?_eq_some_iff.1 toolEncoded
        obtain ⟨shortOutput, rfl⟩ := encodeText?_eq_some_iff.1 outputEncoded
        have small : Cache.formatVersion < 0x10000 := by decide
        refine ⟨⟨small, shortTool, shortOutput⟩, ?_⟩
        simp only [start, header, Header.spelling, List.append_assoc]
  · rintro ⟨fits, rfl⟩
    have tool : encodeText? entry.tool = some _ := encodeText?_eq_some_iff.2 ⟨fits.tool, rfl⟩
    have output : encodeText? entry.output = some _ :=
      encodeText?_eq_some_iff.2 ⟨fits.outputLength, rfl⟩
    simp only [encode, tool, output, start, header, Header.spelling, List.append_assoc]

theorem encode_of_short (entry : Entry)
    (shortTool : (Text.utf8 entry.tool).length < 0x100000000)
    (shortOutput : (Text.utf8 entry.output).length < 0x100000000) :
    entry.encode = .ok entry.written := by
  have small : Cache.formatVersion < 0x10000 := by decide
  have encoded := encode_eq_ok_iff.2 ⟨⟨small, shortTool, shortOutput⟩, rfl⟩
  rw [written, encoded]

/-- The fields of an entry take up 46 bytes beside the tool version and the output. -/
theorem length_of_encode (encoded : entry.encode = .ok content) :
    content.length = 46 + (Text.utf8 entry.tool).length + (Text.utf8 entry.output).length := by
  obtain ⟨-, rfl⟩ := encode_eq_ok_iff.1 encoded
  simp only [Header.spelling, header, List.length_append, LittleEndian.length_encode,
    Digest.length_bytes]
  have start : magic.length = 4 := rfl
  omega

theorem opens_written (encoded : entry.encode = .ok content) : entry.Opens entry.written := by
  obtain ⟨fits, whole⟩ := encode_eq_ok_iff.1 encoded
  have written : entry.written = content := by rw [Entry.written, encoded]
  rw [written, whole]
  exact ⟨fits, List.prefix_rfl⟩

/-- The file of an entry has the entry's header, and what is left of an entry that is too long has
none. -/
theorem header_opens_written_iff {found : Header} : found.Opens entry.written ↔
    found = entry.header ∧ ∃ content, entry.encode = .ok content := by
  constructor
  · intro opens
    cases encoded : entry.encode with
    | error front =>
      obtain ⟨rest, read⟩ := Header.opens_iff.1 opens
      rw [written, encoded, read_front encoded] at read
      cases read
    | ok content => exact ⟨opens.unique (opens_written encoded).opens_header, content, rfl⟩
  · rintro ⟨rfl, content, encoded⟩
    exact (opens_written encoded).opens_header

theorem opens_written_iff : other.Opens entry.written ↔
    other = entry ∧ ∃ content, entry.encode = .ok content := by
  constructor
  · intro opens
    obtain ⟨-, content, encoded⟩ := header_opens_written_iff.1 opens.opens_header
    exact ⟨opens.unique (opens_written encoded), content, encoded⟩
  · rintro ⟨rfl, content, encoded⟩
    exact opens_written encoded

/-- A part of what is written of an entry is no entry, whatever it should be one for. -/
theorem not_opens_part {part : Bytes} (begins : part <+: entry.written)
    (proper : part ≠ entry.written) : ¬ other.Opens part := by
  intro opens
  obtain ⟨behind, whole⟩ := begins
  -- What opens the part opens the whole, so it is the entry itself, and the part has all its bytes.
  obtain ⟨rfl, content, encoded⟩ := opens_written_iff.1 (whole ▸ opens.append behind)
  have written : other.written = content := by rw [Entry.written, encoded]
  have long := opens.leads.length_le
  rw [← (encode_eq_ok_iff.1 encoded).2, ← written, ← whole, List.length_append] at long
  have empty : behind = [] := List.eq_nil_of_length_eq_zero (by omega)
  exact proper (by rw [← whole, empty, List.append_nil])

end Entry

end StaticAtoms.Cache
