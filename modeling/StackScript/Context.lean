import StackScript.Keyword
import StackScript.Log

/-! Options that several stages of a pass share. -/
namespace StackScript

/-- Options of a pass. Documents of another language are left alone by a session; module files are
read in `encoding` and found by their suffixes. -/
structure Context where
  languageId : String := "stackscript"
  encoding : String := "utf-8"
  metadataSuffix : String := ".stackm"
  implementationSuffix : String := ".stack"
  keywords : KeywordTable := .standard
  log : LogSettings := {}
deriving DecidableEq, Repr

end StackScript
