import DeviceLink.Config.Store
import DeviceLink.Proofs.Toml.Numbers

/-!
# Reading ports files

The text that is written for known devices is a ports file, and the devices in
it are the ones that were written, in the same order.
-/

namespace DeviceLink

open Toml (Table Node Draft Statement digitsOf)
open Toml.Scanner (BareKey Stops isBare)

/-! ## Rows of a table -/

namespace Toml.Table

theorem changeLast_concat
    {change : Table → Option Table}
    {last changed : Table}
    (changes : change last = some changed)
    (tables : List Table) :
    changeLast change (tables ++ [last]) = some (tables ++ [changed]) := by
  induction tables with
  | nil => simp [changeLast, changes]
  | cons first others inductionHypothesis =>
      cases others with
      | nil => simp [changeLast, changes]
      | cons second rest =>
          simp only [List.cons_append] at inductionHypothesis ⊢
          rw [changeLast, inductionHypothesis]
          rfl

/-- A field is added to the last table of an array. -/
theorem within_rows
    {change : Table → Option Table}
    {last changed : Table}
    (changes : change last = some changed)
    (key : String)
    (tables : List Table) :
    within change [key] [(key, .rows (tables ++ [last]))] =
      some [(key, .rows (tables ++ [changed]))] := by
  have found : find? [(key, .rows (tables ++ [last]))] key = some (.rows (tables ++ [last])) := by
    simp [find?]
  have inner : changeLast (within change []) (tables ++ [last]) = some (tables ++ [changed]) :=
    changeLast_concat changes tables
  unfold within
  rw [found]
  change (changeLast (within change []) (tables ++ [last])).bind _ = _
  rw [inner]
  simp [replace]

end Toml.Table

/-- A document with one array of tables, to the last of which fields are added. -/
def Toml.Draft.rowsOf (key : String) (tables : List Table) : Draft where
  table := [(key, .rows tables)]
  place := [key]

theorem Toml.Draft.add_field_rowsOf
    {fields : Table}
    {name : String}
    (free : fields.find? name = none)
    (node : Node)
    (key : String)
    (tables : List Table) :
    (Draft.rowsOf key (tables ++ [fields])).add (.field [] name node) =
      some (Draft.rowsOf key (tables ++ [fields ++ [(name, node)]])) := by
  have added : Table.insertAt? [] name node fields = some (fields ++ [(name, node)]) := by
    simp [Table.insertAt?, Table.insertNew?, free]
  have inside := Table.within_rows added key tables
  simp [Draft.add, Draft.rowsOf, inside]

namespace KnownDevice

/-! ## Statements of a ports file -/

/-- The key under which a ports file lists its devices. -/
def listKey : String := "usb_device"

/-- The statements of one device with their texts, behind so many empty lines. -/
def pieces (lines : Nat) (device : KnownDevice) : List (List Char × Statement) :=
  [ (List.replicate lines '\n' ++ (['[', '['] ++ listKey.toList ++ [']', ']', '\n']),
      .row [] listKey),
    ("vid".toList ++ [' ', '=', ' '] ++ digitsOf device.vendor.toNat ++ ['\n'],
      .field [] "vid" (.integer device.vendor.toNat)),
    ("pid".toList ++ [' ', '=', ' '] ++ digitsOf device.product.toNat ++ ['\n'],
      .field [] "pid" (.integer device.product.toNat)) ]

/-- The ids of a device are small enough for a document. -/
theorem fits_wholeLimit (id : UInt16) : (id.toNat : Int) < Toml.wholeLimit := by
  have bound := id.toNat_lt
  unfold Toml.wholeLimit
  omega

theorem takes_pieces
    {lines : Nat}
    {device : KnownDevice}
    {piece : List Char × Statement}
    (among : piece ∈ pieces lines device) :
    Toml.Scanner.statement.Takes piece.1 piece.2 := by
  have list : BareKey listKey := ⟨by simp [listKey], by simp [listKey, isBare]⟩
  have vendor : BareKey "vid" := ⟨by simp, by simp [isBare]⟩
  have product : BareKey "pid" := ⟨by simp, by simp [isBare]⟩
  simp only [pieces, List.mem_cons, List.not_mem_nil, or_false] at among
  obtain rfl | rfl | rfl := among
  · exact Toml.Scanner.takes_statement_row list lines
  · exact Toml.Scanner.takes_statement_number vendor (fits_wholeLimit _)
  · exact Toml.Scanner.takes_statement_number product (fits_wholeLimit _)

/-- The statements of a ports file with their texts. -/
def allPieces : List KnownDevice → List (List Char × Statement)
  | [] => []
  | first :: others => pieces 0 first ++ others.flatMap (pieces 1)

theorem takes_allPieces
    {devices : List KnownDevice}
    {piece : List Char × Statement}
    (among : piece ∈ allPieces devices) :
    Toml.Scanner.statement.Takes piece.1 piece.2 := by
  cases devices with
  | nil => cases among
  | cons first others =>
      obtain here | later := List.mem_append.1 among
      · exact takes_pieces here
      · obtain ⟨device, -, inside⟩ := List.mem_flatMap.1 later
        exact takes_pieces inside

/-! ## The text of a ports file -/

theorem toList_toString (value : Nat) : (toString value).toList = digitsOf value := by
  simp [digitsOf]

theorem text_pieces (device : KnownDevice) :
    ((pieces 0 device).map Prod.fst).flatten = device.block.toList := by
  have front : "[[usb_device]]\nvid = ".toList =
      ['[', '['] ++ listKey.toList ++ [']', ']', '\n'] ++ "vid".toList ++ [' ', '=', ' '] := by
    decide
  have middle : "\npid = ".toList = ['\n'] ++ "pid".toList ++ [' ', '=', ' '] := by decide
  have final : "\n".toList = ['\n'] := by decide
  unfold block
  simp only [String.toList_append, toList_toString, front, middle, final]
  simp [pieces]

theorem text_pieces_later (device : KnownDevice) :
    ((pieces 1 device).map Prod.fst).flatten = '\n' :: device.block.toList := by
  rw [← text_pieces]
  simp [pieces]

theorem toList_portsText_cons (first : KnownDevice) (others : List KnownDevice) :
    (portsText (first :: others)).toList =
      first.block.toList ++ others.flatMap fun device => '\n' :: device.block.toList := by
  rw [portsText, String.toList_intercalate]
  induction others generalizing first with
  | nil => simp
  | cons second rest inductionHypothesis =>
      have later := inductionHypothesis second
      simp only [List.map_cons, List.flatMap_cons] at later ⊢
      rw [List.intercalate_cons_cons, later]
      simp

/-- The text of a ports file is made of the texts of its statements. -/
theorem text_allPieces (devices : List KnownDevice) :
    ((allPieces devices).map Prod.fst).flatten = (portsText devices).toList := by
  cases devices with
  | nil => rfl
  | cons first others =>
      rw [toList_portsText_cons, allPieces, List.map_append, List.flatten_append, text_pieces]
      congr 1
      induction others with
      | nil => rfl
      | cons second rest inductionHypothesis =>
          rw [List.flatMap_cons, List.map_append, List.flatten_append, text_pieces_later,
            inductionHypothesis, List.flatMap_cons]

/-! ## The table of a ports file -/

/-- The table of one device. -/
def row (device : KnownDevice) : Table :=
  [("vid", .integer device.vendor.toNat), ("pid", .integer device.product.toNat)]

/-- The document when some devices have been read. -/
def draftOf : List KnownDevice → Draft
  | [] => {}
  | devices => .rowsOf listKey (devices.map row)

theorem draftOf_concat (devices : List KnownDevice) (device : KnownDevice) :
    draftOf (devices ++ [device]) = .rowsOf listKey (devices.map row ++ [row device]) := by
  cases devices <;> simp [draftOf]

theorem add_row_draftOf (devices : List KnownDevice) :
    (draftOf devices).add (.row [] listKey) =
      some (.rowsOf listKey (devices.map row ++ [[]])) := by
  cases devices with
  | nil => simp [draftOf, Draft.add, Draft.rowsOf, Table.within, Table.addRow, Table.find?]
  | cons first others =>
      simp [draftOf, Draft.add, Draft.rowsOf, Table.within, Table.addRow, Table.find?,
        Table.replace]

/-- The statements of a device add its row. -/
theorem foldlM_pieces (devices : List KnownDevice) (device : KnownDevice) (lines : Nat) :
    ((pieces lines device).map Prod.snd).foldlM Draft.add (draftOf devices) =
      some (draftOf (devices ++ [device])) := by
  have vendor : (Draft.rowsOf listKey (devices.map row ++ [[]])).add
      (.field [] "vid" (.integer device.vendor.toNat)) =
        some (.rowsOf listKey (devices.map row ++ [[("vid", .integer device.vendor.toNat)]])) :=
    Draft.add_field_rowsOf rfl ..
  have product : (Draft.rowsOf listKey
      (devices.map row ++ [[("vid", .integer device.vendor.toNat)]])).add
      (.field [] "pid" (.integer device.product.toNat)) =
        some (.rowsOf listKey (devices.map row ++ [row device])) :=
    Draft.add_field_rowsOf rfl ..
  simp [pieces, add_row_draftOf, vendor, product, draftOf_concat]

theorem foldlM_later (others devices : List KnownDevice) :
    ((others.flatMap (pieces 1)).map Prod.snd).foldlM Draft.add (draftOf devices) =
      some (draftOf (devices ++ others)) := by
  induction others generalizing devices with
  | nil => simp
  | cons device rest inductionHypothesis =>
      rw [List.flatMap_cons, List.map_append, List.foldlM_append, foldlM_pieces]
      simp [inductionHypothesis]

theorem foldlM_allPieces (devices : List KnownDevice) :
    ((allPieces devices).map Prod.snd).foldlM Draft.add {} = some (draftOf devices) := by
  cases devices with
  | nil => rfl
  | cons first others =>
      have begun : ((pieces 0 first).map Prod.snd).foldlM Draft.add {} = some (draftOf [first]) :=
        foldlM_pieces [] first 0
      rw [allPieces, List.map_append, List.foldlM_append, begun]
      exact foldlM_later others [first]

/-- A ports file does not start with a mark of its byte order. -/
theorem stops_allPieces (devices : List KnownDevice) :
    Stops (· == Char.ofNat 0xFEFF) ((allPieces devices).map Prod.fst).flatten := by
  cases devices with
  | nil => exact Toml.Scanner.stops_nil _
  | cons first others =>
      simp only [allPieces, pieces, List.replicate_zero, List.nil_append, List.cons_append,
        List.map_cons, List.flatten_cons]
      exact Toml.Scanner.stops_cons_iff.2 (by decide)

/-- The document of a ports file. -/
theorem parse?_portsText (devices : List KnownDevice) :
    Toml.parse? (portsText devices) = some (draftOf devices).table := by
  have read := Toml.Scanner.statements_flatten (stops_allPieces devices)
    fun _ among => takes_allPieces among
  rw [text_allPieces] at read
  simp [Toml.parse?, read, foldlM_allPieces]

/-! ## The devices of a ports file -/

/-- An id is read as itself. -/
theorem word?_toNat (id : UInt16) : (Node.integer id.toNat).word? = some id := by
  have fits : 0 ≤ (id.toNat : Int) ∧ (id.toNat : Int).toNat < UInt16.size :=
    ⟨Int.natCast_nonneg _, id.toNat_lt_size⟩
  rw [Node.word?, Node.naturalBelow?, if_pos fits, Int.toNat_natCast, Option.map_some,
    UInt16.ofNat_toNat]

theorem ofNode?_row (device : KnownDevice) :
    ofNode? (.table .written (row device)) = some device := by
  have parts : (Node.table .written (row device)).settings? partNames 2 =
      some [some (.integer device.vendor.toNat), some (.integer device.product.toNat)] :=
    rfl
  unfold ofNode?
  rw [parts]
  simp [word?_toNat]

theorem mapM_rows (devices : List KnownDevice) :
    (devices.map fun device => Node.table .written (row device)).mapM ofNode? = some devices := by
  induction devices with
  | nil => rfl
  | cons device rest inductionHypothesis => simp [ofNode?_row, inductionHypothesis]

/-- The serial section in a ports file has the devices, and no other setting. -/
theorem section_draftOf (devices : List KnownDevice) :
    SerialSection.ofNode? (.table .written (draftOf devices).table) =
      some { devices := devices } := by
  cases devices with
  | nil => rfl
  | cons first others =>
      have parts : (Node.table .written (draftOf (first :: others)).table).settings?
          ["port", "baud", "usb_device"] 2 =
            some [none, none, some (.rows ((first :: others).map row))] :=
        rfl
      have listed : listOfNode? (some (.rows ((first :: others).map row))) =
          some (first :: others) := by
        have rows := mapM_rows (first :: others)
        simpa [listOfNode?, Node.items?, Function.comp_def] using rows
      unfold SerialSection.ofNode?
      rw [parts]
      simp only [Node.optional?, listed, Option.bind_eq_bind, Option.bind_some, Option.pure_def]

/-- The devices that are written into a ports file are read from it. -/
theorem parsePorts?_portsText (devices : List KnownDevice) :
    parsePorts? (portsText devices) = some devices := by
  simp [parsePorts?, parse?_portsText, section_draftOf]

end KnownDevice

end DeviceLink
