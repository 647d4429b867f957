import Delimited.Codec.Basic
import Delimited.Proofs.Result

/-!
# What a message turns out to be

A text or a byte string is a row, a comment or malformed, and there is nothing else to it: every
failure of the parts is of a class that is caught where the parts are called, so that none escapes,
as `decodeStrict_cases` says. `Malformed` lists the four ways in which a message is malformed,
`malformed_of_decodeStrict` says that these are all, and only the last one tells a column: the first
whose field is not decoded. A codec that tolerates malformed records differs from one that does not
in these messages alone, and what gives no row is logged. `decode_messages` sums this up.
-/

namespace Delimited

/-! ## Classes of failures -/

/-- A failure of a caught class makes a parse fault. -/
theorem DecodeError.ofCaught_of_isAmong {caught : List ErrorClass} {failure : Failure}
    (h : failure.errorClass.isAmong caught = true) (fault : ParseFault) :
    ofCaught caught failure fault = .malformed fault := if_pos h

/-- Where a leaf is read, a value does not fit, or there is no result among the decimals. -/
theorem ReadError.isAmong_caught (e : ReadError) :
    e.failure.errorClass.isAmong Dialect.caughtInColumn = true := by
  cases e <;> rfl

/-- All failures to decode a field are caught. -/
theorem ColumnFault.isAmong_caught (f : ColumnFault) :
    f.failure.errorClass.isAmong Dialect.caughtInColumn = true := by
  cases f with
  | leaf e => exact e.isAmong_caught
  | split => rfl
  | leafCount => rfl

/-- All failures to split a line are caught. -/
theorem SplitFault.isAmong_caught (f : SplitFault) :
    f.failure.errorClass.isAmong [.value] = true := rfl

/-- All failures to find the text of bytes are caught. -/
theorem Utf8.Malformed.isAmong_caught (m : Utf8.Malformed) :
    m.failure.errorClass.isAmong [.decoding] = true := rfl

namespace ColumnType

/-- May a column of this type hold so many leaves? -/
def HasLeaves (type : ColumnType) (count : Nat) : Prop :=
  match type with
  | leaf _ | array _ => True
  | row first others => count = (first :: others).length

/-- The texts of leaves with the types that a column of this type reads them as. -/
def typed (type : ColumnType) (inners : List Text) : List (LeafType × Text) :=
  match type with
  | leaf type | array type => inners.map (type, ·)
  | row first others => (first :: others).zip inners

/-- A row is a tuple, and an array a list. -/
def sequenceKind : ColumnType → SequenceKind
  | leaf _ | row .. => .tuple
  | array _ => .list

end ColumnType

namespace Dialect

variable {d : Dialect}

/-- The first column whose field is not decoded as its type, with its index, the field and what is
wrong with it. -/
def FirstFault (d : Dialect) (columns : List Column) (fields : List Text) (j : Nat) (c : Column)
    (t : Text) (fault : ColumnFault) : Prop :=
  Except.FirstError (fun _ p => d.readColumn p.1.type p.2) (columns.zip fields) j (c, t) fault

/-- What stands for null is read as null. -/
theorem readColumn_of_standsForNull {type : ColumnType} {t : Text}
    (h : d.standsForNull type t = true) : d.readColumn type t = .ok .null := by
  unfold readColumn
  rw [h, if_pos rfl]

/-- A composite column whose text is neither null nor empty is read as the sequence of its leaves.
-/
theorem readColumn_composite_eq_ok {type : ColumnType} (htype : type.isComposite = true) {t : Text}
    (hnull : d.standsForNull type t = false) (ht : t ≠ []) {v : Value} :
    d.readColumn type t = .ok v ↔ ∃ inners items, d.elements t = .ok inners ∧
      type.HasLeaves inners.length ∧ d.readLeaves (type.typed inners) = .ok items ∧
        v = .sequence type.sequenceKind items := by
  have hempty : t.isEmpty = false := by simpa using ht
  cases type with
  | leaf => cases htype
  | row first others =>
    rw [readColumn, hnull]
    simp only [Bool.false_eq_true, if_false, hempty]
    constructor
    · intro h
      obtain ⟨inners, helements, h⟩ := Except.bind_eq_ok.1 h
      split at h
      · next hcount =>
        obtain ⟨items, hread, h⟩ := Except.bind_eq_ok.1 h
        exact ⟨inners, items, helements, hcount, hread, (Except.pure_eq_ok.1 h).symm⟩
      · cases h
    · rintro ⟨inners, items, helements, hcount, hread, rfl⟩
      refine Except.bind_eq_ok.2 ⟨inners, helements, ?_⟩
      rw [if_pos (show inners.length = (first :: others).length from hcount)]
      exact Except.bind_eq_ok.2 ⟨items, hread, rfl⟩
  | array element =>
    rw [readColumn, hnull]
    simp only [Bool.false_eq_true, if_false, hempty]
    constructor
    · intro h
      obtain ⟨inners, helements, h⟩ := Except.bind_eq_ok.1 h
      obtain ⟨items, hread, h⟩ := Except.bind_eq_ok.1 h
      exact ⟨inners, items, helements, trivial, hread, (Except.pure_eq_ok.1 h).symm⟩
    · rintro ⟨inners, items, helements, -, hread, rfl⟩
      exact Except.bind_eq_ok.2 ⟨inners, helements, Except.bind_eq_ok.2 ⟨items, hread, rfl⟩⟩

/-- A text in a column of rows that is neither null nor empty is read as the tuple of its leaves. -/
theorem readColumn_row_of_elements {first : LeafType} {others : List LeafType} {t : Text}
    {inners : List Text} {items : List Value}
    (hnull : d.standsForNull (.row first others) t = false) (ht : t ≠ [])
    (helements : d.elements t = .ok inners) (hcount : inners.length = (first :: others).length)
    (hread : d.readLeaves ((first :: others).zip inners) = .ok items) :
    d.readColumn (.row first others) t = .ok (.sequence .tuple items) :=
  (readColumn_composite_eq_ok rfl hnull ht).2 ⟨inners, items, helements, hcount, hread, rfl⟩

/-- A text in a column of arrays that is neither null nor empty is read as the list of its leaves.
-/
theorem readColumn_array_of_elements {element : LeafType} {t : Text} {inners : List Text}
    {items : List Value} (hnull : d.standsForNull (.array element) t = false) (ht : t ≠ [])
    (helements : d.elements t = .ok inners)
    (hread : d.readLeaves (inners.map (element, ·)) = .ok items) :
    d.readColumn (.array element) t = .ok (.sequence .list items) :=
  (readColumn_composite_eq_ok rfl hnull ht).2 ⟨inners, items, helements, trivial, hread, rfl⟩

/-- A column of one leaf is read as the leaf. -/
theorem readColumn_leaf (type : LeafType) (t : Text) :
    d.readColumn (.leaf type) t = (d.readLeaf type t).mapError .leaf := by
  cases h : d.standsForNull (.leaf type) t with
  | false =>
    rw [readColumn, h]
    rfl
  | true =>
    have hleaf : d.readLeaf type t = .ok .null := by simp [readLeaf, h]
    rw [readColumn_of_standsForNull h, hleaf]
    rfl

/-- The empty text is the empty array, unless it is null. -/
theorem readColumn_array_nil {element : LeafType}
    (h : d.standsForNull (.array element) [] = false) :
    d.readColumn (.array element) [] = .ok (.sequence .list []) := by
  rw [readColumn, h]
  rfl

/-- The empty text is the null row. -/
theorem readColumn_row_nil (first : LeafType) (others : List LeafType) :
    d.readColumn (.row first others) [] = .ok .null := by
  unfold readColumn
  split <;> rfl

/-- Columns without fields are null. -/
theorem readColumns_nil (index : Nat) (columns : List Column) :
    d.readColumns index columns [] = .ok (List.replicate columns.length .null) := by
  induction columns generalizing index with
  | nil => rfl
  | cons c columns ih =>
    rw [readColumns, ih]
    rfl

/-- The fields of several columns are decoded if the first one is and so are the others. -/
theorem readColumns_cons_eq_ok {index : Nat} {c : Column} {columns : List Column} {t : Text}
    {fields : List Text} {values : List Value} :
    d.readColumns index (c :: columns) (t :: fields) = .ok values ↔ ∃ v rest,
      d.readColumn c.type t = .ok v ∧ d.readColumns (index + 1) columns fields = .ok rest ∧
        values = v :: rest := by
  rw [readColumns]
  cases d.readColumn c.type t with
  | error fault => simp
  | ok v =>
    constructor
    · intro h
      obtain ⟨rest, hrest, h⟩ := Except.bind_eq_ok.1 h
      cases h
      exact ⟨v, rest, rfl, hrest, rfl⟩
    · rintro ⟨_, rest, hv, hrest, rfl⟩
      cases hv
      exact Except.bind_eq_ok.2 ⟨rest, hrest, rfl⟩

/-- A field of a record may be replaced by one that its column reads alike, and by no other. -/
theorem readColumns_append_cons_iff {index : Nat} {columns : List Column} {init fields : List Text}
    {x : Text} {values : List Value}
    (h : d.readColumns index columns (init ++ x :: fields) = .ok values)
    (hlength : init.length < columns.length) :
    ∃ column w, columns[init.length]? = some column ∧ d.readColumn column.type x = .ok w ∧
      ∀ y, d.readColumns index columns (init ++ y :: fields) = .ok values ↔
        d.readColumn column.type y = .ok w := by
  induction init generalizing index columns values with
  | nil =>
    obtain ⟨c, columns, rfl⟩ := List.exists_cons_of_length_pos hlength
    obtain ⟨w, rest, hw, hrest, rfl⟩ := readColumns_cons_eq_ok.1 h
    refine ⟨c, w, rfl, hw, fun y => ?_⟩
    rw [List.nil_append, readColumns_cons_eq_ok]
    constructor
    · rintro ⟨w', rest', hw', -, heq⟩
      cases heq
      exact hw'
    · exact fun hy => ⟨w, rest, hy, hrest, rfl⟩
  | cons t init ih =>
    obtain ⟨c, columns, rfl⟩ := List.exists_cons_of_length_pos (Nat.zero_lt_of_lt hlength)
    obtain ⟨v, rest, hv, hrest, rfl⟩ := readColumns_cons_eq_ok.1 h
    obtain ⟨column, w, hcolumn, hw, hiff⟩ := ih hrest (Nat.lt_of_succ_lt_succ hlength)
    refine ⟨column, w, hcolumn, hw, fun y => ?_⟩
    rw [← hiff y, List.cons_append, readColumns_cons_eq_ok]
    constructor
    · rintro ⟨v', rest', -, hrest', heq⟩
      cases heq
      exact hrest'
    · exact fun hy => ⟨v, rest, hv, hy, rfl⟩

/-- The fields of several columns are not decoded if the first one is not, or the others are not. -/
theorem readColumns_cons_eq_error {index : Nat} {c : Column} {columns : List Column} {t : Text}
    {fields : List Text} {e : DecodeError} :
    d.readColumns index (c :: columns) (t :: fields) = .error e ↔
      (∃ fault, d.readColumn c.type t = .error fault ∧
        e = .malformed ⟨some ⟨index, c.name⟩, t, .column c.type fault⟩) ∨
      ∃ v, d.readColumn c.type t = .ok v ∧ d.readColumns (index + 1) columns fields = .error e := by
  rw [readColumns]
  cases d.readColumn c.type t with
  | error fault => simp [DecodeError.ofCaught_of_isAmong fault.isAmong_caught, eq_comm]
  | ok v =>
    have hrest : (do return v :: (← d.readColumns (index + 1) columns fields)) = .error e ↔
        d.readColumns (index + 1) columns fields = .error e := by
      rw [Except.bind_eq_error]
      exact or_iff_left fun ⟨_, _, h⟩ => nomatch h
    constructor
    · exact fun h => .inr ⟨v, rfl, hrest.1 h⟩
    · rintro (⟨_, h, -⟩ | ⟨_, h, hread⟩)
      · cases h
      · cases h
        exact hrest.2 hread

/-- Fields are not decoded because of the first column at fault. -/
theorem readColumns_eq_error {index : Nat} {columns : List Column} {fields : List Text}
    {e : DecodeError} :
    d.readColumns index columns fields = .error e ↔ ∃ j c t fault,
      d.FirstFault columns fields j c t fault ∧
        e = .malformed ⟨some ⟨index + j, c.name⟩, t, .column c.type fault⟩ := by
  induction columns generalizing index fields with
  | nil =>
    constructor
    · intro h
      cases h
    · rintro ⟨j, c, t, fault, h, -⟩
      exact absurd h Except.not_firstError_nil
  | cons c columns ih =>
    cases fields with
    | nil =>
      rw [readColumns_nil]
      constructor
      · intro h
        cases h
      · rintro ⟨j, c, t, fault, h, -⟩
        exact absurd h Except.not_firstError_nil
    | cons t fields =>
      have hshift : ∀ k, index + 1 + k = index + (k + 1) := fun k => by omega
      rw [readColumns_cons_eq_error, ih]
      simp only [FirstFault, List.zip_cons_cons, Except.firstError_cons]
      constructor
      · rintro (⟨fault, hfault, rfl⟩ | ⟨v, hv, k, c', t', fault, h, rfl⟩)
        · exact ⟨0, c, t, fault, .inl ⟨rfl, rfl, hfault⟩, rfl⟩
        · exact ⟨k + 1, c', t', fault, .inr ⟨k, v, rfl, hv, h⟩, by rw [hshift]⟩
      · rintro ⟨j, c', t', fault, ⟨rfl, heq, hfault⟩ | ⟨k, v, rfl, hv, h⟩, rfl⟩
        · cases heq
          exact .inl ⟨fault, hfault, rfl⟩
        · exact .inr ⟨v, hv, k, c', t', fault, h, by rw [hshift]⟩

/-- A value is read for each column. -/
theorem length_of_readColumns {index : Nat} {columns : List Column} {fields : List Text}
    {values : List Value} (h : d.readColumns index columns fields = .ok values) :
    values.length = columns.length := by
  induction columns generalizing index fields values with
  | nil =>
    cases h
    rfl
  | cons c columns ih =>
    cases fields with
    | nil =>
      rw [readColumns_nil] at h
      cases h
      exact List.length_replicate
    | cons t fields =>
      obtain ⟨v, rest, -, hrest, rfl⟩ := readColumns_cons_eq_ok.1 h
      exact congrArg (· + 1) (ih hrest)

end Dialect

/-- A record is decoded if it is split into no more fields than there are columns and these are. -/
theorem Schema.decodeRecord_eq_ok {s : Schema} {d : Dialect} {t : Text} {values : List Value} :
    s.decodeRecord d t = .ok values ↔ ∃ fields, d.recordFields t = .ok fields ∧
      fields.length ≤ s.arity ∧ d.readColumns 0 s.columns fields = .ok values := by
  unfold decodeRecord
  cases d.recordFields t with
  | error f => simp
  | ok fields =>
    by_cases hlength : fields.length ≤ s.arity
    · simp [hlength]
    · simp [hlength]

/-- A record has a value for each column. -/
theorem Schema.length_of_decodeRecord {s : Schema} {d : Dialect} {t : Text} {values : List Value}
    (h : s.decodeRecord d t = .ok values) : values.length = s.arity := by
  obtain ⟨fields, -, -, hread⟩ := decodeRecord_eq_ok.1 h
  exact Dialect.length_of_readColumns hread

namespace Codec

variable {c : Codec} {message : Value}

/-- A message is the text of a record, and not that of a comment. -/
structure HasRecord (c : Codec) (message : Value) (t : Text) : Prop where
  /-- The text of the message. -/
  text : messageText message = .ok t
  /-- It is no comment where comments are read. -/
  comment : (c.dialect.allowComments && t.isComment) = false

/-- The ways in which a message is malformed. -/
inductive Malformed (c : Codec) (message : Value) : ParseFault → Prop where
  /-- The bytes encode no text. -/
  | bytes {kind : BytesKind} {b : List UInt8} {m : Utf8.Malformed}
    (hmessage : message = .bytes kind b)
    (h : Utf8.decode b = .error m) : Malformed c message ⟨none, Quoted.bytes b, .utf8 m⟩
  /-- The line cannot be split. -/
  | line {t : Text} {f : SplitFault} (ht : c.HasRecord message t)
    (h : c.dialect.recordFields t = .error f) : Malformed c message ⟨none, t, .split f⟩
  /-- There are more fields than columns. -/
  | record {t : Text} {fields : List Text} (ht : c.HasRecord message t)
    (h : c.dialect.recordFields t = .ok fields) (hlength : c.schema.arity < fields.length) :
    Malformed c message ⟨none, t, .columnCount fields.length c.schema.arity⟩
  /-- A field is not decoded as its column's type. -/
  | field {t : Text} {fields : List Text} {j : Nat} {column : Column} {found : Text}
    {fault : ColumnFault} (ht : c.HasRecord message t)
    (h : c.dialect.recordFields t = .ok fields) (hlength : fields.length ≤ c.schema.arity)
    (hfault : c.dialect.FirstFault c.schema.columns fields j column found fault) :
    Malformed c message ⟨some ⟨j, column.name⟩, found, .column column.type fault⟩

/-! ## Messages and their texts -/

/-- A message is refused if it is neither text nor bytes. -/
theorem messageText_eq_notText {given : String} : messageText message = .error (.notText given) ↔
    ((∀ t, message ≠ .text t) ∧ ∀ kind b, message ≠ .bytes kind b) ∧ given = message.kindName := by
  unfold messageText
  split
  · simp
  · split
    · simp
    · next m _ => simp [DecodeError.ofCaught_of_isAmong m.isAmong_caught]
  · next htext hbytes =>
    constructor
    · intro h
      cases h
      exact ⟨⟨htext, hbytes⟩, rfl⟩
    · rintro ⟨-, rfl⟩
      rfl

/-- A message has no text because its bytes encode none. -/
theorem messageText_eq_malformed {f : ParseFault} : messageText message = .error (.malformed f) ↔
    ∃ kind b m, message = .bytes kind b ∧ Utf8.decode b = .error m ∧
      f = ⟨none, Quoted.bytes b, .utf8 m⟩ := by
  unfold messageText
  split
  · simp
  · next kind b =>
    split
    · next t hdecode => simp [hdecode]
    · next m hdecode =>
      rw [DecodeError.ofCaught_of_isAmong m.isAmong_caught]
      constructor
      · intro h
        cases h
        exact ⟨kind, b, m, rfl, hdecode, rfl⟩
      · rintro ⟨_, _, m', heq, hdecode', rfl⟩
        cases heq
        cases hdecode.symm.trans hdecode'
        rfl
  · next hbytes =>
    constructor
    · intro h
      cases h
    · rintro ⟨kind, b, m, rfl, -⟩
      exact absurd rfl (hbytes kind b)

/-- No failure escapes where the text of a message is found. -/
theorem messageText_ne_escaped (f : Failure) : messageText message ≠ .error (.escaped f) := by
  unfold messageText
  split
  · simp
  · split
    · simp
    · next m _ => simp [DecodeError.ofCaught_of_isAmong m.isAmong_caught]
  · simp

/-! ## Strict decoding -/

/-- A message whose text is no comment is decoded as a record, and nothing is logged. -/
theorem runStrict_of_hasRecord {t : Text} (h : c.HasRecord message t) :
    c.runStrict message = ⟨(c.schema.decodeRecord c.dialect t).map .row, []⟩ := by
  rw [runStrict, h.text]
  simp only [h.comment, Bool.false_eq_true, if_false]

/-- A message whose text is no comment is decoded as a record. -/
theorem decodeStrict_of_hasRecord {t : Text} (h : c.HasRecord message t) :
    c.decodeStrict message = (c.schema.decodeRecord c.dialect t).map .row :=
  congrArg Logged.result (runStrict_of_hasRecord h)

/-- A message has no text, or is a comment and logged, or has a record. -/
theorem hasRecord_cases (c : Codec) (message : Value) :
    (∃ e, messageText message = .error e ∧ c.runStrict message = ⟨.error e, []⟩) ∨
      (∃ t, messageText message = .ok t ∧ c.dialect.allowComments = true ∧ t.isComment = true ∧
        c.runStrict message = ⟨.ok (.comment t), [commentLine t]⟩) ∨
      ∃ t, c.HasRecord message t := by
  cases htext : messageText message with
  | error e => exact .inl ⟨e, rfl, by rw [runStrict, htext]⟩
  | ok t =>
    cases hskip : c.dialect.allowComments && t.isComment with
    | false => exact .inr (.inr ⟨t, htext, hskip⟩)
    | true =>
      obtain ⟨hallow, hcomment⟩ := Bool.and_eq_true_iff.1 hskip
      refine .inr (.inl ⟨t, rfl, hallow, hcomment, ?_⟩)
      rw [runStrict, htext]
      simp only [hskip, if_true]

/-- A malformed message is not decoded. -/
theorem Malformed.decodeStrict {f : ParseFault} (h : c.Malformed message f) :
    c.decodeStrict message = .error (.malformed f) := by
  cases h with
  | bytes hmessage h =>
    have htext := messageText_eq_malformed.2 ⟨_, _, _, hmessage, h, rfl⟩
    rw [Codec.decodeStrict, runStrict, htext]
  | line ht h =>
    rw [decodeStrict_of_hasRecord ht, Schema.decodeRecord, h]
    rfl
  | record ht h hlength =>
    rw [decodeStrict_of_hasRecord ht, Schema.decodeRecord, h]
    simp only [Nat.not_le.2 hlength, if_false]
    rfl
  | @field t fields j column found fault ht h hlength hfault =>
    have hread : c.dialect.readColumns 0 c.schema.columns fields
        = .error (.malformed ⟨some ⟨j, column.name⟩, found, .column column.type fault⟩) :=
      Dialect.readColumns_eq_error.2 ⟨j, column, found, fault, hfault, by rw [Nat.zero_add]⟩
    rw [decodeStrict_of_hasRecord ht, Schema.decodeRecord, h]
    simp only [hlength, if_true, hread]
    rfl

/-- A record that is not decoded makes its message malformed. -/
theorem malformed_of_decodeRecord {t : Text} {e : DecodeError} (ht : c.HasRecord message t)
    (h : c.schema.decodeRecord c.dialect t = .error e) :
    ∃ f, e = .malformed f ∧ c.Malformed message f := by
  unfold Schema.decodeRecord at h
  split at h
  · next f hfields =>
    rw [DecodeError.ofCaught_of_isAmong f.isAmong_caught] at h
    cases h
    exact ⟨_, rfl, .line ht hfields⟩
  · next fields hfields =>
    split at h
    · next hlength =>
      obtain ⟨j, column, found, fault, hfault, rfl⟩ := Dialect.readColumns_eq_error.1 h
      rw [Nat.zero_add]
      exact ⟨_, rfl, .field ht hfields hlength hfault⟩
    · next hlength =>
      cases h
      exact ⟨_, rfl, .record ht hfields (Nat.not_le.1 hlength)⟩

/-- A message that is not decoded is refused or malformed. -/
theorem malformed_of_decodeStrict {f : ParseFault}
    (h : c.decodeStrict message = .error (.malformed f)) : c.Malformed message f := by
  rcases hasRecord_cases c message with ⟨e, htext, hrun⟩ | ⟨t, -, -, -, hrun⟩ | ⟨t, ht⟩
  · rw [decodeStrict, hrun] at h
    cases h
    obtain ⟨kind, b, m, hmessage, hdecode, rfl⟩ := messageText_eq_malformed.1 htext
    exact .bytes hmessage hdecode
  · rw [decodeStrict, hrun] at h
    cases h
  · rw [decodeStrict_of_hasRecord ht, Except.map_eq_error] at h
    obtain ⟨_, heq, hmalformed⟩ := malformed_of_decodeRecord ht h
    cases heq
    exact hmalformed

/-- A message is a row if it has a record that is decoded. -/
theorem decodeStrict_eq_row {values : List Value} : c.decodeStrict message = .ok (.row values) ↔
    ∃ t, c.HasRecord message t ∧ c.schema.decodeRecord c.dialect t = .ok values := by
  constructor
  · intro h
    rcases hasRecord_cases c message with ⟨e, -, hrun⟩ | ⟨t, -, -, -, hrun⟩ | ⟨t, ht⟩
    · rw [decodeStrict, hrun] at h
      cases h
    · rw [decodeStrict, hrun] at h
      cases h
    · rw [decodeStrict_of_hasRecord ht] at h
      obtain ⟨values', hvalues, heq⟩ := Except.map_eq_ok.1 h
      cases heq
      exact ⟨t, ht, hvalues⟩
  · rintro ⟨t, ht, hvalues⟩
    rw [decodeStrict_of_hasRecord ht, hvalues]
    rfl

/-! ## Runs -/

/-- What a message is, from what it is where malformed records are errors. -/
theorem decode_eq (c : Codec) (message : Value) :
    c.decode message = match c.decodeStrict message with
      | .error (.malformed f) =>
        if c.dialect.ignoreMalformed then .ok (.dropped f) else .error (.malformed f)
      | result => result := by
  rw [decode, run, decodeStrict]
  rcases c.runStrict message with ⟨_ | _, log⟩
  · next e =>
    cases e with
    | malformed f => simp only; split <;> rfl
    | notText => rfl
    | escaped => rfl
  · rfl

/-- Decoding is strict where nothing is malformed. -/
theorem run_of_not_malformed (h : ∀ f, ¬ c.Malformed message f) :
    c.run message = c.runStrict message := by
  unfold run
  split
  · next f log hrun =>
    exact absurd (malformed_of_decodeStrict (congrArg Logged.result hrun)) (h f)
  · rfl

/-- Nothing is logged of a malformed message where it is an error. -/
theorem Malformed.runStrict {f : ParseFault} (h : c.Malformed message f) :
    c.runStrict message = ⟨.error (.malformed f), []⟩ := by
  have hstrict := h.decodeStrict
  rcases hasRecord_cases c message with ⟨e, -, hrun⟩ | ⟨t, -, -, -, hrun⟩ | ⟨t, ht⟩
  · rw [Codec.decodeStrict, hrun] at hstrict
    cases hstrict
    exact hrun
  · rw [Codec.decodeStrict, hrun] at hstrict
    cases hstrict
  · rw [decodeStrict_of_hasRecord ht] at hstrict
    rw [runStrict_of_hasRecord ht, hstrict]

/-- A malformed message is an error, or is dropped and logged. -/
theorem Malformed.run {f : ParseFault} (h : c.Malformed message f) :
    c.run message = if c.dialect.ignoreMalformed then ⟨.ok (.dropped f), [droppedLine f]⟩
      else ⟨.error (.malformed f), []⟩ := by
  simp only [Codec.run, h.runStrict, List.nil_append]

/-- A message is a row, tolerated or not, if it has a record that is decoded. -/
theorem decode_eq_row {values : List Value} : c.decode message = .ok (.row values) ↔
    ∃ t, c.HasRecord message t ∧ c.schema.decodeRecord c.dialect t = .ok values := by
  rw [← decodeStrict_eq_row, decode_eq]
  split
  · next f hstrict =>
    rw [hstrict]
    split <;> simp
  · rfl

/-- Where no comments are read, a text is a row if its fields are decoded as those of the columns. -/
theorem decode_of_recordFields {t : Text} {fields : List Text} {values : List Value}
    (hcomments : c.dialect.allowComments = false) (hfields : c.dialect.recordFields t = .ok fields)
    (hlength : fields.length ≤ c.schema.arity)
    (hread : c.dialect.readColumns 0 c.schema.columns fields = .ok values) :
    c.decode (.text t) = .ok (.row values) :=
  decode_eq_row.2 ⟨t, ⟨rfl, by rw [hcomments, Bool.false_and]⟩,
    Schema.decodeRecord_eq_ok.2 ⟨fields, hfields, hlength, hread⟩⟩

/-- A message is a comment if its text is one where comments are read. -/
theorem decode_eq_comment {t : Text} : c.decode message = .ok (.comment t) ↔
    messageText message = .ok t ∧ c.dialect.allowComments = true ∧ t.isComment = true := by
  constructor
  · intro h
    by_cases hmalformed : ∃ f, c.Malformed message f
    · obtain ⟨f, hf⟩ := hmalformed
      rw [decode, hf.run] at h
      split at h <;> cases h
    · rw [decode, run_of_not_malformed fun f hf => hmalformed ⟨f, hf⟩] at h
      rcases hasRecord_cases c message with ⟨e, -, hrun⟩ | ⟨t, ht, hallow, hcomment, hrun⟩ | ⟨t, ht⟩
      · rw [hrun] at h
        cases h
      · rw [hrun] at h
        cases h
        exact ⟨ht, hallow, hcomment⟩
      · rw [runStrict_of_hasRecord ht] at h
        obtain ⟨_, -, h⟩ := Except.map_eq_ok.1 h
        cases h
  · rintro ⟨ht, hallow, hcomment⟩
    have hrun : c.runStrict message = ⟨.ok (.comment t), [commentLine t]⟩ := by
      rw [runStrict, ht]
      simp only [hallow, hcomment, Bool.and_self, if_true]
    rw [decode, run, hrun]

/-- Of two texts that are comments alike, one is a row if its record is decoded, where the other is
one. -/
theorem decode_eq_row_iff {t t' : Text} {values values' : List Value}
    (hcomment : t'.isComment = t.isComment) (h : c.decode (.text t) = .ok (.row values)) :
    c.decode (.text t') = .ok (.row values') ↔ c.schema.decodeRecord c.dialect t' = .ok values' := by
  obtain ⟨_, ⟨htext, hrecord⟩, -⟩ := decode_eq_row.1 h
  cases htext
  rw [decode_eq_row]
  constructor
  · rintro ⟨_, ⟨htext, -⟩, hvalues⟩
    cases htext
    exact hvalues
  · exact fun hvalues => ⟨t', ⟨rfl, by rwa [hcomment]⟩, hvalues⟩

/-! ## Tolerance -/

/-- The codec that is given malformed records as errors, or drops them. -/
def tolerating (c : Codec) (ignoreMalformed : Bool) : Codec :=
  { c with dialect := { c.dialect with ignoreMalformed } }

end Codec

/-- Tolerance is nothing to the columns of a record. -/
theorem Dialect.readColumns_tolerating (d : Dialect) (ignoreMalformed : Bool) (index : Nat)
    (columns : List Column) (fields : List Text) :
    { d with ignoreMalformed }.readColumns index columns fields
      = d.readColumns index columns fields := by
  induction columns generalizing index fields with
  | nil => rfl
  | cons c columns ih =>
    cases fields with
    | nil => rw [readColumns_nil, readColumns_nil]
    | cons t fields =>
      have hcolumn : { d with ignoreMalformed }.readColumn c.type t = d.readColumn c.type t := rfl
      rw [readColumns, readColumns, hcolumn, ih]

namespace Codec

variable {c : Codec} {message : Value}

/-- Tolerance is nothing to strict decoding. -/
theorem runStrict_tolerating (c : Codec) (ignoreMalformed : Bool) (message : Value) :
    (c.tolerating ignoreMalformed).runStrict message = c.runStrict message := by
  have hrecord : ∀ t, c.schema.decodeRecord (c.tolerating ignoreMalformed).dialect t
      = c.schema.decodeRecord c.dialect t := by
    intro t
    have hfields : (c.tolerating ignoreMalformed).dialect.recordFields t
        = c.dialect.recordFields t := rfl
    rw [Schema.decodeRecord, Schema.decodeRecord, hfields]
    simp only [tolerating, Dialect.readColumns_tolerating]
  unfold runStrict
  simp only [tolerating] at hrecord ⊢
  simp only [hrecord]

/-- Tolerance is nothing to what is malformed. -/
theorem malformed_tolerating {ignoreMalformed : Bool} {f : ParseFault} :
    (c.tolerating ignoreMalformed).Malformed message f ↔ c.Malformed message f := by
  have hstrict : (c.tolerating ignoreMalformed).decodeStrict message = c.decodeStrict message :=
    congrArg Logged.result (runStrict_tolerating c ignoreMalformed message)
  constructor
  · exact fun h => malformed_of_decodeStrict (hstrict.symm.trans h.decodeStrict)
  · exact fun h => malformed_of_decodeStrict (hstrict.trans h.decodeStrict)

/-- A codec of whatever tolerance decodes strictly what is not malformed. -/
theorem run_tolerating_of_not_malformed (h : ∀ f, ¬ c.Malformed message f)
    (ignoreMalformed : Bool) :
    (c.tolerating ignoreMalformed).run message = c.runStrict message := by
  rw [run_of_not_malformed fun f hf => h f (malformed_tolerating.1 hf), runStrict_tolerating]

/-- A codec that is not tolerant decodes strictly. -/
theorem run_tolerating_false (c : Codec) (message : Value) :
    (c.tolerating false).run message = c.runStrict message := by
  by_cases hmalformed : ∃ f, c.Malformed message f
  · obtain ⟨f, hf⟩ := hmalformed
    rw [(malformed_tolerating.2 hf).run, hf.runStrict]
    rfl
  · exact run_tolerating_of_not_malformed (fun f hf => hmalformed ⟨f, hf⟩) false

/-- A codec that is not tolerant gives what strict decoding gives. -/
theorem decode_tolerating_false (c : Codec) (message : Value) :
    (c.tolerating false).decode message = c.decodeStrict message :=
  congrArg Logged.result (run_tolerating_false c message)

/-- A tolerant codec drops what is malformed. -/
theorem decode_tolerating_true_of_malformed {f : ParseFault} (h : c.Malformed message f) :
    (c.tolerating true).decode message = .ok (.dropped f) :=
  congrArg Logged.result (malformed_tolerating.2 h).run

/-- A tolerant codec gives what strict decoding gives, and drops what is malformed. -/
theorem decode_tolerating_true_eq_ok {outcome : Outcome} :
    (c.tolerating true).decode message = .ok outcome ↔
      c.decodeStrict message = .ok outcome ∨
        ∃ f, c.decodeStrict message = .error (.malformed f) ∧ outcome = .dropped f := by
  by_cases hmalformed : ∃ f, c.Malformed message f
  · obtain ⟨f, hf⟩ := hmalformed
    rw [decode_tolerating_true_of_malformed hf, hf.decodeStrict]
    constructor
    · intro h
      cases h
      exact .inr ⟨f, rfl, rfl⟩
    · rintro (h | ⟨g, h, rfl⟩)
      · cases h
      · cases h
        rfl
  · rw [decode, run_tolerating_of_not_malformed fun f hf => hmalformed ⟨f, hf⟩]
    exact (or_iff_left fun ⟨f, hf, _⟩ => hmalformed ⟨f, malformed_of_decodeStrict hf⟩).symm

/-! ## What is logged -/

/-- A result with what is to be logged of it. -/
inductive IsLogged : Logged (Except DecodeError Outcome) → Prop where
  /-- Nothing of a row. -/
  | row (values : List Value) : IsLogged ⟨.ok (.row values), []⟩
  /-- A line for a comment. -/
  | comment (t : Text) : IsLogged ⟨.ok (.comment t), [commentLine t]⟩
  /-- A line for a malformed record that is dropped. -/
  | dropped (f : ParseFault) : IsLogged ⟨.ok (.dropped f), [droppedLine f]⟩
  /-- Nothing of an error. -/
  | error (e : DecodeError) : IsLogged ⟨.error e, []⟩

/-- A strict run logs what is to be logged. -/
theorem isLogged_runStrict (c : Codec) (message : Value) : IsLogged (c.runStrict message) := by
  rcases hasRecord_cases c message with ⟨e, -, hrun⟩ | ⟨t, -, -, -, hrun⟩ | ⟨t, ht⟩
  · rw [hrun]
    exact .error e
  · rw [hrun]
    exact .comment t
  · rw [runStrict_of_hasRecord ht]
    cases c.schema.decodeRecord c.dialect t with
    | ok values => exact .row values
    | error e => exact .error e

/-- A run logs what is to be logged. -/
theorem isLogged_run (c : Codec) (message : Value) : IsLogged (c.run message) := by
  by_cases hmalformed : ∃ f, c.Malformed message f
  · obtain ⟨f, hf⟩ := hmalformed
    rw [hf.run]
    split
    · exact .dropped f
    · exact .error _
  · rw [run_of_not_malformed fun f hf => hmalformed ⟨f, hf⟩]
    exact isLogged_runStrict c message

/-- What is logged is told by the result. -/
theorem IsLogged.log_eq {run : Logged (Except DecodeError Outcome)} (h : IsLogged run) :
    (∀ values, run.result = .ok (.row values) → run.log = []) ∧
      (∀ t, run.result = .ok (.comment t) → run.log = [commentLine t]) ∧
      (∀ f, run.result = .ok (.dropped f) → run.log = [droppedLine f]) ∧
      ∀ e, run.result = .error e → run.log = [] := by
  cases h <;> simp_all

/-! ## What becomes of a message -/

/-- A message is a row with a value for each column, a comment where these are read, or malformed,
or it is neither text nor bytes. No other failure escapes. -/
theorem decodeStrict_cases (c : Codec) (message : Value) :
    (∃ values, c.decodeStrict message = .ok (.row values) ∧ values.length = c.schema.arity) ∨
      (∃ t, c.decodeStrict message = .ok (.comment t) ∧ messageText message = .ok t ∧
        c.dialect.allowComments = true ∧ t.isComment = true) ∨
      (∃ f, c.decodeStrict message = .error (.malformed f)) ∨
      ∃ given, c.decodeStrict message = .error (.notText given) ∧
        (∀ t, message ≠ .text t) ∧ ∀ kind b, message ≠ .bytes kind b := by
  rcases hasRecord_cases c message with ⟨e, htext, hrun⟩ | ⟨t, ht, hallow, hcomment, hrun⟩ | ⟨t, ht⟩
  · have hstrict : c.decodeStrict message = .error e := congrArg Logged.result hrun
    cases e with
    | notText given =>
      exact .inr (.inr (.inr ⟨given, hstrict, (messageText_eq_notText.1 htext).1⟩))
    | malformed f => exact .inr (.inr (.inl ⟨f, hstrict⟩))
    | escaped f => exact absurd htext (messageText_ne_escaped f)
  · exact .inr (.inl ⟨t, congrArg Logged.result hrun, ht, hallow, hcomment⟩)
  · cases hrecord : c.schema.decodeRecord c.dialect t with
    | ok values =>
      exact .inl ⟨values, decodeStrict_eq_row.2 ⟨t, ht, hrecord⟩,
        Schema.length_of_decodeRecord hrecord⟩
    | error e =>
      obtain ⟨f, -, hf⟩ := malformed_of_decodeRecord ht hrecord
      exact .inr (.inr (.inl ⟨f, hf.decodeStrict⟩))

/-- A fault tells a column if that is the first one whose field is not decoded. -/
theorem decodeStrict_eq_fault {j : Nat} {name found : Text} {reason : ParseReason} :
    c.decodeStrict message = .error (.malformed ⟨some ⟨j, name⟩, found, reason⟩) ↔
      ∃ t fields column fault, c.HasRecord message t ∧ c.dialect.recordFields t = .ok fields ∧
        fields.length ≤ c.schema.arity ∧
        c.dialect.FirstFault c.schema.columns fields j column found fault ∧
        name = column.name ∧ reason = .column column.type fault := by
  constructor
  · intro h
    -- Of the four ways to be malformed only the last one tells a column.
    cases malformed_of_decodeStrict h with
    | field ht hfields hlength hfault =>
      exact ⟨_, _, _, _, ht, hfields, hlength, hfault, rfl, rfl⟩
  · rintro ⟨t, fields, column, fault, ht, hfields, hlength, hfault, rfl, rfl⟩
    exact (Malformed.field ht hfields hlength hfault).decodeStrict

/-- What a codec makes of a message. A strict one gives a row with a value for each column, a
comment where comments are read, or a fault, whose failure is of the class of faults and tells its
context, and refuses only what is neither text nor bytes; no failure of its parts escapes. The fault
tells a column if and only if the message is the text of a record that is split into no more fields
than there are columns, and that column is the first whose field is not decoded; it shows the
column's name and the field. A tolerant one differs in that it drops what is malformed. Of a comment
and of what is dropped one line is logged, and nothing of a row or an error. -/
theorem decode_messages (c : Codec) (message : Value) :
    ((∃ values, (c.tolerating false).decode message = .ok (.row values) ∧
          values.length = c.schema.arity) ∨
      (∃ t, (c.tolerating false).decode message = .ok (.comment t) ∧
          messageText message = .ok t ∧ c.dialect.allowComments = true ∧ t.isComment = true) ∨
      (∃ f, (c.tolerating false).decode message = .error (.malformed f) ∧
          (DecodeError.malformed f).failure.errorClass = .parse ∧
          (DecodeError.malformed f).failure.context? = some ⟨f.place, f.found⟩) ∨
      ∃ given, (c.tolerating false).decode message = .error (.notText given) ∧
          (∀ t, message ≠ .text t) ∧ ∀ kind b, message ≠ .bytes kind b) ∧
    (∀ j name found reason, (c.tolerating false).decode message
          = .error (.malformed ⟨some ⟨j, name⟩, found, reason⟩) ↔
        ∃ t fields column fault, c.HasRecord message t ∧ c.dialect.recordFields t = .ok fields ∧
          fields.length ≤ c.schema.arity ∧
          c.dialect.FirstFault c.schema.columns fields j column found fault ∧
          name = column.name ∧ reason = .column column.type fault) ∧
    (∀ outcome, (c.tolerating true).decode message = .ok outcome ↔
        (c.tolerating false).decode message = .ok outcome ∨
          ∃ f, (c.tolerating false).decode message = .error (.malformed f) ∧
            outcome = .dropped f) ∧
    ∀ ignoreMalformed,
      (∀ values, (c.tolerating ignoreMalformed).decode message = .ok (.row values) →
        ((c.tolerating ignoreMalformed).run message).log = []) ∧
      (∀ t, (c.tolerating ignoreMalformed).decode message = .ok (.comment t) →
        ((c.tolerating ignoreMalformed).run message).log = [commentLine t]) ∧
      (∀ f, (c.tolerating ignoreMalformed).decode message = .ok (.dropped f) →
        ((c.tolerating ignoreMalformed).run message).log = [droppedLine f]) ∧
      ∀ e, (c.tolerating ignoreMalformed).decode message = .error e →
        ((c.tolerating ignoreMalformed).run message).log = [] := by
  refine ⟨?_, ?_, ?_, fun ignoreMalformed => (isLogged_run _ message).log_eq⟩
  · rw [decode_tolerating_false]
    rcases decodeStrict_cases c message with hrow | hcomment | ⟨f, hf⟩ | hrefused
    · exact .inl hrow
    · exact .inr (.inl hcomment)
    · exact .inr (.inr (.inl ⟨f, hf, rfl, rfl⟩))
    · exact .inr (.inr (.inr hrefused))
  · rw [decode_tolerating_false]
    exact fun _ _ _ _ => decodeStrict_eq_fault
  · rw [decode_tolerating_false]
    exact fun _ => decode_tolerating_true_eq_ok

end Codec

end Delimited
