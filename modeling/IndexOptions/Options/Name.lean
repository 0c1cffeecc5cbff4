import IndexOptions.Entries

/-!
# Option names

The nine options of a search index, and the words that operators write for them. Other words are ignored.
-/

namespace IndexOptions

inductive OptionName where
  | refreshSeconds
  | ramBufferMb
  | maxMergeMb
  | maxCachedMb
  | indexingThreads
  | indexingQueuesSize
  | excludedDataCenters
  | directoryPath
  | schema
deriving DecidableEq, Repr

namespace OptionName

/-- The word for an option. -/
def text : OptionName → Text
  | refreshSeconds => "refresh_seconds"
  | ramBufferMb => "ram_buffer_mb"
  | maxMergeMb => "max_merge_mb"
  | maxCachedMb => "max_cached_mb"
  | indexingThreads => "indexing_threads"
  | indexingQueuesSize => "indexing_queues_size"
  | excludedDataCenters => "excluded_data_centers"
  | directoryPath => "directory_path"
  | schema => "schema"

/-- All options, in the order in which they are checked. -/
def all : List OptionName :=
  [refreshSeconds, ramBufferMb, maxMergeMb, maxCachedMb, indexingThreads, indexingQueuesSize, excludedDataCenters,
    directoryPath, schema]

/-- The option that a word stands for. -/
def ofText? (t : Text) : Option OptionName := all.find? fun o => o.text = t

/-- Whether a word stands for an option. -/
def isRecognized (t : Text) : Bool := (ofText? t).isSome

theorem ofText?_text (o : OptionName) : ofText? o.text = some o := by
  cases o <;> decide

theorem text_injective {o p : OptionName} (h : o.text = p.text) : o = p := by
  have := congrArg ofText? h
  simpa [ofText?_text] using this

end OptionName

/-- The options of an index as they were written, in order. -/
abbrev OptionMap := Entries Text

/-- The text given for an option. -/
def OptionMap.raw (options : OptionMap) (o : OptionName) : Option Text := Entries.get? options o.text

end IndexOptions
