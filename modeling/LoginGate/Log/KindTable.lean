import LoginGate.Log.Kind

/-!
# Log/KindTable — the members of every kind

Every member comes with its form, its name, the text of its signature and its description, line by
line. The texts are shown to a template that asks for them.
-/

namespace LoginGate.Log.Kind

/-- The members of every value. -/
def objectMembers : List Member := [
  ⟨.made, "__new__", some "($type, *args, **kwargs)",
    some ["Create and return a new object.  See help(type) for accurate signature."]⟩,
  ⟨.slot, "__repr__", some "($self, /)", some ["Return repr(self)."]⟩,
  ⟨.slot, "__hash__", some "($self, /)", some ["Return hash(self)."]⟩,
  ⟨.slot, "__str__", some "($self, /)", some ["Return str(self)."]⟩,
  ⟨.slot, "__getattribute__", some "($self, name, /)", some ["Return getattr(self, name)."]⟩,
  ⟨.slot, "__setattr__", some "($self, name, value, /)",
    some ["Implement setattr(self, name, value)."]⟩,
  ⟨.slot, "__delattr__", some "($self, name, /)", some ["Implement delattr(self, name)."]⟩,
  ⟨.slot, "__lt__", some "($self, value, /)", some ["Return self<value."]⟩,
  ⟨.slot, "__le__", some "($self, value, /)", some ["Return self<=value."]⟩,
  ⟨.slot, "__eq__", some "($self, value, /)", some ["Return self==value."]⟩,
  ⟨.slot, "__ne__", some "($self, value, /)", some ["Return self!=value."]⟩,
  ⟨.slot, "__gt__", some "($self, value, /)", some ["Return self>value."]⟩,
  ⟨.slot, "__ge__", some "($self, value, /)", some ["Return self>=value."]⟩,
  ⟨.slot, "__init__", some "($self, /, *args, **kwargs)",
    some ["Initialize self.  See help(type(self)) for accurate signature."]⟩,
  ⟨.method, "__reduce_ex__", some "($self, protocol, /)", some ["Helper for pickle."]⟩,
  ⟨.method, "__reduce__", some "($self, /)", some ["Helper for pickle."]⟩,
  ⟨.method, "__getstate__", some "($self, /)", some ["Helper for pickle."]⟩,
  ⟨.shared, "__subclasshook__", none,
    some ["Abstract classes can override this to customize issubclass().", "",
     "This is invoked early on by abc.ABCMeta.__subclasscheck__().",
     "It should return True, False or NotImplemented.  If it returns",
     "NotImplemented, the normal algorithm is used.  Otherwise, it",
     "overrides the normal algorithm (and the outcome is cached).", ""]⟩,
  ⟨.shared, "__init_subclass__", none,
    some ["This method is called when a class is subclassed.", "",
     "The default implementation does nothing. It may be", "overridden to extend subclasses.", ""]⟩,
  ⟨.method, "__format__", some "($self, format_spec, /)", some ["Default object formatter."]⟩,
  ⟨.method, "__sizeof__", some "($self, /)", some ["Size of object in memory, in bytes."]⟩,
  ⟨.method, "__dir__", some "($self, /)", some ["Default dir() implementation."]⟩,
  ⟨.property, "__class__", none, some ["the object's class"]⟩,
  ⟨.constant, "__doc__", none,
    some ["The base class of the class hierarchy.", "",
     "When called, it accepts no arguments and returns a new featureless",
     "instance that has no instance attributes and cannot be given any.", ""]⟩]

/-- The members of a kind. -/
def kindMembers : List Member := [
  ⟨.made, "__new__", some "($type, *args, **kwargs)",
    some ["Create and return a new object.  See help(type) for accurate signature."]⟩,
  ⟨.slot, "__repr__", some "($self, /)", some ["Return repr(self)."]⟩,
  ⟨.slot, "__call__", some "($self, /, *args, **kwargs)", some ["Call self as a function."]⟩,
  ⟨.slot, "__getattribute__", some "($self, name, /)", some ["Return getattr(self, name)."]⟩,
  ⟨.slot, "__setattr__", some "($self, name, value, /)",
    some ["Implement setattr(self, name, value)."]⟩,
  ⟨.slot, "__delattr__", some "($self, name, /)", some ["Implement delattr(self, name)."]⟩,
  ⟨.slot, "__init__", some "($self, /, *args, **kwargs)",
    some ["Initialize self.  See help(type(self)) for accurate signature."]⟩,
  ⟨.slot, "__or__", some "($self, value, /)", some ["Return self|value."]⟩,
  ⟨.slot, "__ror__", some "($self, value, /)", some ["Return value|self."]⟩,
  ⟨.method, "mro", some "($self, /)", some ["Return a type's method resolution order."]⟩,
  ⟨.method, "__subclasses__", some "($self, /)", some ["Return a list of immediate subclasses."]⟩,
  ⟨.shared, "__prepare__", none,
    some ["__prepare__() -> dict", "used to create the namespace for the class statement"]⟩,
  ⟨.method, "__instancecheck__", some "($self, instance, /)",
    some ["Check if an object is an instance."]⟩,
  ⟨.method, "__subclasscheck__", some "($self, subclass, /)",
    some ["Check if a class is a subclass."]⟩,
  ⟨.method, "__dir__", some "($self, /)", some ["Specialized __dir__ implementation for types."]⟩,
  ⟨.method, "__sizeof__", some "($self, /)",
    some ["Return memory consumption of the type object."]⟩,
  ⟨.field, "__basicsize__", none, none⟩,
  ⟨.field, "__itemsize__", none, none⟩,
  ⟨.field, "__flags__", none, none⟩,
  ⟨.field, "__weakrefoffset__", none, none⟩,
  ⟨.field, "__base__", none, none⟩,
  ⟨.field, "__dictoffset__", none, none⟩,
  ⟨.field, "__mro__", none, none⟩,
  ⟨.property, "__name__", none, none⟩,
  ⟨.property, "__qualname__", none, none⟩,
  ⟨.property, "__bases__", none, none⟩,
  ⟨.property, "__module__", none, none⟩,
  ⟨.property, "__abstractmethods__", none, none⟩,
  ⟨.property, "__dict__", none, none⟩,
  ⟨.property, "__doc__", none, none⟩,
  ⟨.property, "__text_signature__", none, none⟩,
  ⟨.property, "__annotations__", none, none⟩]

/-- The members of a text. -/
def textMembers : List Member := [
  ⟨.made, "__new__", some "($type, *args, **kwargs)",
    some ["Create and return a new object.  See help(type) for accurate signature."]⟩,
  ⟨.slot, "__repr__", some "($self, /)", some ["Return repr(self)."]⟩,
  ⟨.slot, "__hash__", some "($self, /)", some ["Return hash(self)."]⟩,
  ⟨.slot, "__str__", some "($self, /)", some ["Return str(self)."]⟩,
  ⟨.slot, "__getattribute__", some "($self, name, /)", some ["Return getattr(self, name)."]⟩,
  ⟨.slot, "__lt__", some "($self, value, /)", some ["Return self<value."]⟩,
  ⟨.slot, "__le__", some "($self, value, /)", some ["Return self<=value."]⟩,
  ⟨.slot, "__eq__", some "($self, value, /)", some ["Return self==value."]⟩,
  ⟨.slot, "__ne__", some "($self, value, /)", some ["Return self!=value."]⟩,
  ⟨.slot, "__gt__", some "($self, value, /)", some ["Return self>value."]⟩,
  ⟨.slot, "__ge__", some "($self, value, /)", some ["Return self>=value."]⟩,
  ⟨.slot, "__iter__", some "($self, /)", some ["Implement iter(self)."]⟩,
  ⟨.slot, "__mod__", some "($self, value, /)", some ["Return self%value."]⟩,
  ⟨.slot, "__rmod__", some "($self, value, /)", some ["Return value%self."]⟩,
  ⟨.slot, "__len__", some "($self, /)", some ["Return len(self)."]⟩,
  ⟨.slot, "__getitem__", some "($self, key, /)", some ["Return self[key]."]⟩,
  ⟨.slot, "__add__", some "($self, value, /)", some ["Return self+value."]⟩,
  ⟨.slot, "__mul__", some "($self, value, /)", some ["Return self*value."]⟩,
  ⟨.slot, "__rmul__", some "($self, value, /)", some ["Return value*self."]⟩,
  ⟨.slot, "__contains__", some "($self, key, /)", some ["Return key in self."]⟩,
  ⟨.method, "encode", some "($self, /, encoding='utf-8', errors='strict')",
    some ["Encode the string using the codec registered for encoding.", "", "  encoding",
     "    The encoding in which to encode the string.", "  errors",
     "    The error handling scheme to use for encoding errors.",
     "    The default is 'strict' meaning that encoding errors raise a",
     "    UnicodeEncodeError.  Other possible values are 'ignore', 'replace' and",
     "    'xmlcharrefreplace' as well as any other name registered with",
     "    codecs.register_error that can handle UnicodeEncodeErrors."]⟩,
  ⟨.method, "replace", some "($self, old, new, count=-1, /)",
    some ["Return a copy with all occurrences of substring old replaced by new.", "", "  count",
     "    Maximum number of occurrences to replace.",
     "    -1 (the default value) means replace all occurrences.", "",
     "If the optional argument count is given, only the first count occurrences are", "replaced."]⟩,
  ⟨.method, "split", some "($self, /, sep=None, maxsplit=-1)",
    some ["Return a list of the substrings in the string, using sep as the separator string.", "",
     "  sep", "    The separator used to split the string.", "",
     "    When set to None (the default value), will split on any whitespace",
     "    character (including \\n \\r \\t \\f and spaces) and will discard",
     "    empty strings from the result.", "  maxsplit", "    Maximum number of splits.",
     "    -1 (the default value) means no limit.", "",
     "Splitting starts at the front of the string and works to the end.", "",
     "Note, str.split() is mainly useful for data that has been intentionally",
     "delimited.  With natural text that includes punctuation, consider using",
     "the regular expression module."]⟩,
  ⟨.method, "rsplit", some "($self, /, sep=None, maxsplit=-1)",
    some ["Return a list of the substrings in the string, using sep as the separator string.", "",
     "  sep", "    The separator used to split the string.", "",
     "    When set to None (the default value), will split on any whitespace",
     "    character (including \\n \\r \\t \\f and spaces) and will discard",
     "    empty strings from the result.", "  maxsplit", "    Maximum number of splits.",
     "    -1 (the default value) means no limit.", "",
     "Splitting starts at the end of the string and works to the front."]⟩,
  ⟨.method, "join", some "($self, iterable, /)",
    some ["Concatenate any number of strings.", "",
     "The string whose method is called is inserted in between each given string.",
     "The result is returned as a new string.", "",
     "Example: '.'.join(['ab', 'pq', 'rs']) -> 'ab.pq.rs'"]⟩,
  ⟨.method, "capitalize", some "($self, /)",
    some ["Return a capitalized version of the string.", "",
     "More specifically, make the first character have upper case and the rest lower", "case."]⟩,
  ⟨.method, "casefold", some "($self, /)",
    some ["Return a version of the string suitable for caseless comparisons."]⟩,
  ⟨.method, "title", some "($self, /)",
    some ["Return a version of the string where each word is titlecased.", "",
     "More specifically, words start with uppercased characters and all remaining",
     "cased characters have lower case."]⟩,
  ⟨.method, "center", some "($self, width, fillchar=' ', /)",
    some ["Return a centered string of length width.", "",
     "Padding is done using the specified fill character (default is a space)."]⟩,
  ⟨.method, "count", none,
    some ["S.count(sub[, start[, end]]) -> int", "",
     "Return the number of non-overlapping occurrences of substring sub in",
     "string S[start:end].  Optional arguments start and end are",
     "interpreted as in slice notation."]⟩,
  ⟨.method, "expandtabs", some "($self, /, tabsize=8)",
    some ["Return a copy where all tab characters are expanded using spaces.", "",
     "If tabsize is not given, a tab size of 8 characters is assumed."]⟩,
  ⟨.method, "find", none,
    some ["S.find(sub[, start[, end]]) -> int", "",
     "Return the lowest index in S where substring sub is found,",
     "such that sub is contained within S[start:end].  Optional",
     "arguments start and end are interpreted as in slice notation.", "", "Return -1 on failure."]⟩,
  ⟨.method, "partition", some "($self, sep, /)",
    some ["Partition the string into three parts using the given separator.", "",
     "This will search for the separator in the string.  If the separator is found,",
     "returns a 3-tuple containing the part before the separator, the separator",
     "itself, and the part after it.", "",
     "If the separator is not found, returns a 3-tuple containing the original string",
     "and two empty strings."]⟩,
  ⟨.method, "index", none,
    some ["S.index(sub[, start[, end]]) -> int", "",
     "Return the lowest index in S where substring sub is found,",
     "such that sub is contained within S[start:end].  Optional",
     "arguments start and end are interpreted as in slice notation.", "",
     "Raises ValueError when the substring is not found."]⟩,
  ⟨.method, "ljust", some "($self, width, fillchar=' ', /)",
    some ["Return a left-justified string of length width.", "",
     "Padding is done using the specified fill character (default is a space)."]⟩,
  ⟨.method, "lower", some "($self, /)",
    some ["Return a copy of the string converted to lowercase."]⟩,
  ⟨.method, "lstrip", some "($self, chars=None, /)",
    some ["Return a copy of the string with leading whitespace removed.", "",
     "If chars is given and not None, remove characters in chars instead."]⟩,
  ⟨.method, "rfind", none,
    some ["S.rfind(sub[, start[, end]]) -> int", "",
     "Return the highest index in S where substring sub is found,",
     "such that sub is contained within S[start:end].  Optional",
     "arguments start and end are interpreted as in slice notation.", "", "Return -1 on failure."]⟩,
  ⟨.method, "rindex", none,
    some ["S.rindex(sub[, start[, end]]) -> int", "",
     "Return the highest index in S where substring sub is found,",
     "such that sub is contained within S[start:end].  Optional",
     "arguments start and end are interpreted as in slice notation.", "",
     "Raises ValueError when the substring is not found."]⟩,
  ⟨.method, "rjust", some "($self, width, fillchar=' ', /)",
    some ["Return a right-justified string of length width.", "",
     "Padding is done using the specified fill character (default is a space)."]⟩,
  ⟨.method, "rstrip", some "($self, chars=None, /)",
    some ["Return a copy of the string with trailing whitespace removed.", "",
     "If chars is given and not None, remove characters in chars instead."]⟩,
  ⟨.method, "rpartition", some "($self, sep, /)",
    some ["Partition the string into three parts using the given separator.", "",
     "This will search for the separator in the string, starting at the end. If",
     "the separator is found, returns a 3-tuple containing the part before the",
     "separator, the separator itself, and the part after it.", "",
     "If the separator is not found, returns a 3-tuple containing two empty strings",
     "and the original string."]⟩,
  ⟨.method, "splitlines", some "($self, /, keepends=False)",
    some ["Return a list of the lines in the string, breaking at line boundaries.", "",
     "Line breaks are not included in the resulting list unless keepends is given and", "true."]⟩,
  ⟨.method, "strip", some "($self, chars=None, /)",
    some ["Return a copy of the string with leading and trailing whitespace removed.", "",
     "If chars is given and not None, remove characters in chars instead."]⟩,
  ⟨.method, "swapcase", some "($self, /)",
    some ["Convert uppercase characters to lowercase and lowercase characters to uppercase."]⟩,
  ⟨.method, "translate", some "($self, table, /)",
    some ["Replace each character in the string using the given translation table.", "",
     "  table", "    Translation table, which must be a mapping of Unicode ordinals to",
     "    Unicode ordinals, strings, or None.", "",
     "The table must implement lookup/indexing via __getitem__, for instance a",
     "dictionary or list.  If this operation raises LookupError, the character is",
     "left untouched.  Characters mapped to None are deleted."]⟩,
  ⟨.method, "upper", some "($self, /)",
    some ["Return a copy of the string converted to uppercase."]⟩,
  ⟨.method, "startswith", none,
    some ["S.startswith(prefix[, start[, end]]) -> bool", "",
     "Return True if S starts with the specified prefix, False otherwise.",
     "With optional start, test S beginning at that position.",
     "With optional end, stop comparing S at that position.",
     "prefix can also be a tuple of strings to try."]⟩,
  ⟨.method, "endswith", none,
    some ["S.endswith(suffix[, start[, end]]) -> bool", "",
     "Return True if S ends with the specified suffix, False otherwise.",
     "With optional start, test S beginning at that position.",
     "With optional end, stop comparing S at that position.",
     "suffix can also be a tuple of strings to try."]⟩,
  ⟨.method, "removeprefix", some "($self, prefix, /)",
    some ["Return a str with the given prefix string removed if present.", "",
     "If the string starts with the prefix string, return string[len(prefix):].",
     "Otherwise, return a copy of the original string."]⟩,
  ⟨.method, "removesuffix", some "($self, suffix, /)",
    some ["Return a str with the given suffix string removed if present.", "",
     "If the string ends with the suffix string and that suffix is not empty,",
     "return string[:-len(suffix)]. Otherwise, return a copy of the original", "string."]⟩,
  ⟨.method, "isascii", some "($self, /)",
    some ["Return True if all characters in the string are ASCII, False otherwise.", "",
     "ASCII characters have code points in the range U+0000-U+007F.",
     "Empty string is ASCII too."]⟩,
  ⟨.method, "islower", some "($self, /)",
    some ["Return True if the string is a lowercase string, False otherwise.", "",
     "A string is lowercase if all cased characters in the string are lowercase and",
     "there is at least one cased character in the string."]⟩,
  ⟨.method, "isupper", some "($self, /)",
    some ["Return True if the string is an uppercase string, False otherwise.", "",
     "A string is uppercase if all cased characters in the string are uppercase and",
     "there is at least one cased character in the string."]⟩,
  ⟨.method, "istitle", some "($self, /)",
    some ["Return True if the string is a title-cased string, False otherwise.", "",
     "In a title-cased string, upper- and title-case characters may only",
     "follow uncased characters and lowercase characters only cased ones."]⟩,
  ⟨.method, "isspace", some "($self, /)",
    some ["Return True if the string is a whitespace string, False otherwise.", "",
     "A string is whitespace if all characters in the string are whitespace and there",
     "is at least one character in the string."]⟩,
  ⟨.method, "isdecimal", some "($self, /)",
    some ["Return True if the string is a decimal string, False otherwise.", "",
     "A string is a decimal string if all characters in the string are decimal and",
     "there is at least one character in the string."]⟩,
  ⟨.method, "isdigit", some "($self, /)",
    some ["Return True if the string is a digit string, False otherwise.", "",
     "A string is a digit string if all characters in the string are digits and there",
     "is at least one character in the string."]⟩,
  ⟨.method, "isnumeric", some "($self, /)",
    some ["Return True if the string is a numeric string, False otherwise.", "",
     "A string is numeric if all characters in the string are numeric and there is at",
     "least one character in the string."]⟩,
  ⟨.method, "isalpha", some "($self, /)",
    some ["Return True if the string is an alphabetic string, False otherwise.", "",
     "A string is alphabetic if all characters in the string are alphabetic and there",
     "is at least one character in the string."]⟩,
  ⟨.method, "isalnum", some "($self, /)",
    some ["Return True if the string is an alpha-numeric string, False otherwise.", "",
     "A string is alpha-numeric if all characters in the string are alpha-numeric and",
     "there is at least one character in the string."]⟩,
  ⟨.method, "isidentifier", some "($self, /)",
    some ["Return True if the string is a valid Python identifier, False otherwise.", "",
     "Call keyword.iskeyword(s) to test whether string s is a reserved identifier,",
     "such as \"def\" or \"class\"."]⟩,
  ⟨.method, "isprintable", some "($self, /)",
    some ["Return True if the string is printable, False otherwise.", "",
     "A string is printable if all of its characters are considered printable in",
     "repr() or if it is empty."]⟩,
  ⟨.method, "zfill", some "($self, width, /)",
    some ["Pad a numeric string with zeros on the left, to fill a field of the given width.", "",
     "The string is never truncated."]⟩,
  ⟨.method, "format", none,
    some ["S.format(*args, **kwargs) -> str", "",
     "Return a formatted version of S, using substitutions from args and kwargs.",
     "The substitutions are identified by braces ('\x7b' and '\x7d')."]⟩,
  ⟨.method, "format_map", none,
    some ["S.format_map(mapping) -> str", "",
     "Return a formatted version of S, using substitutions from mapping.",
     "The substitutions are identified by braces ('\x7b' and '\x7d')."]⟩,
  ⟨.method, "__format__", some "($self, format_spec, /)",
    some ["Return a formatted version of the string as described by format_spec."]⟩,
  ⟨.free, "maketrans", some "(x, y=<unrepresentable>, z=<unrepresentable>, /)",
    some ["Return a translation table usable for str.translate().", "",
     "If there is only one argument, it must be a dictionary mapping Unicode",
     "ordinals (integers) or characters to Unicode ordinals, strings or None.",
     "Character keys will be then converted to ordinals.",
     "If there are two arguments, they must be strings of equal length, and",
     "in the resulting dictionary, each character in x will be mapped to the",
     "character at the same position in y. If there is a third argument, it",
     "must be a string, whose characters will be mapped to None in the result."]⟩,
  ⟨.method, "__sizeof__", some "($self, /)",
    some ["Return the size of the string in memory, in bytes."]⟩,
  ⟨.method, "__getnewargs__", none, none⟩,
  ⟨.constant, "__doc__", none,
    some ["str(object='') -> str", "str(bytes_or_buffer[, encoding[, errors]]) -> str", "",
     "Create a new string object from the given object. If encoding or",
     "errors is specified, then the object must expose a data buffer",
     "that will be decoded using the given encoding and error handler.",
     "Otherwise, returns the result of object.__str__() (if defined)", "or repr(object).",
     "encoding defaults to sys.getdefaultencoding().", "errors defaults to 'strict'."]⟩]

/-- The members of a row of kinds. -/
def rowMembers : List Member := [
  ⟨.made, "__new__", some "($type, *args, **kwargs)",
    some ["Create and return a new object.  See help(type) for accurate signature."]⟩,
  ⟨.slot, "__repr__", some "($self, /)", some ["Return repr(self)."]⟩,
  ⟨.slot, "__hash__", some "($self, /)", some ["Return hash(self)."]⟩,
  ⟨.slot, "__getattribute__", some "($self, name, /)", some ["Return getattr(self, name)."]⟩,
  ⟨.slot, "__lt__", some "($self, value, /)", some ["Return self<value."]⟩,
  ⟨.slot, "__le__", some "($self, value, /)", some ["Return self<=value."]⟩,
  ⟨.slot, "__eq__", some "($self, value, /)", some ["Return self==value."]⟩,
  ⟨.slot, "__ne__", some "($self, value, /)", some ["Return self!=value."]⟩,
  ⟨.slot, "__gt__", some "($self, value, /)", some ["Return self>value."]⟩,
  ⟨.slot, "__ge__", some "($self, value, /)", some ["Return self>=value."]⟩,
  ⟨.slot, "__iter__", some "($self, /)", some ["Implement iter(self)."]⟩,
  ⟨.slot, "__len__", some "($self, /)", some ["Return len(self)."]⟩,
  ⟨.slot, "__getitem__", some "($self, key, /)", some ["Return self[key]."]⟩,
  ⟨.slot, "__add__", some "($self, value, /)", some ["Return self+value."]⟩,
  ⟨.slot, "__mul__", some "($self, value, /)", some ["Return self*value."]⟩,
  ⟨.slot, "__rmul__", some "($self, value, /)", some ["Return value*self."]⟩,
  ⟨.slot, "__contains__", some "($self, key, /)", some ["Return key in self."]⟩,
  ⟨.method, "__getnewargs__", some "($self, /)", none⟩,
  ⟨.method, "index", some "($self, value, start=0, stop=sys.maxsize, /)",
    some ["Return first index of value.", "", "Raises ValueError if the value is not present."]⟩,
  ⟨.method, "count", some "($self, value, /)", some ["Return number of occurrences of value."]⟩,
  ⟨.shared, "__class_getitem__", none, some ["See PEP 585"]⟩,
  ⟨.constant, "__doc__", none,
    some ["Built-in immutable sequence.", "",
     "If no argument is given, the constructor returns an empty tuple.",
     "If iterable is specified the tuple is initialized from iterable's items.", "",
     "If the argument is a tuple, the return value is the same object."]⟩]

/-- The members of a whole number. -/
def numberMembers : List Member := [
  ⟨.made, "__new__", some "($type, *args, **kwargs)",
    some ["Create and return a new object.  See help(type) for accurate signature."]⟩,
  ⟨.slot, "__repr__", some "($self, /)", some ["Return repr(self)."]⟩,
  ⟨.slot, "__hash__", some "($self, /)", some ["Return hash(self)."]⟩,
  ⟨.slot, "__getattribute__", some "($self, name, /)", some ["Return getattr(self, name)."]⟩,
  ⟨.slot, "__lt__", some "($self, value, /)", some ["Return self<value."]⟩,
  ⟨.slot, "__le__", some "($self, value, /)", some ["Return self<=value."]⟩,
  ⟨.slot, "__eq__", some "($self, value, /)", some ["Return self==value."]⟩,
  ⟨.slot, "__ne__", some "($self, value, /)", some ["Return self!=value."]⟩,
  ⟨.slot, "__gt__", some "($self, value, /)", some ["Return self>value."]⟩,
  ⟨.slot, "__ge__", some "($self, value, /)", some ["Return self>=value."]⟩,
  ⟨.slot, "__add__", some "($self, value, /)", some ["Return self+value."]⟩,
  ⟨.slot, "__radd__", some "($self, value, /)", some ["Return value+self."]⟩,
  ⟨.slot, "__sub__", some "($self, value, /)", some ["Return self-value."]⟩,
  ⟨.slot, "__rsub__", some "($self, value, /)", some ["Return value-self."]⟩,
  ⟨.slot, "__mul__", some "($self, value, /)", some ["Return self*value."]⟩,
  ⟨.slot, "__rmul__", some "($self, value, /)", some ["Return value*self."]⟩,
  ⟨.slot, "__mod__", some "($self, value, /)", some ["Return self%value."]⟩,
  ⟨.slot, "__rmod__", some "($self, value, /)", some ["Return value%self."]⟩,
  ⟨.slot, "__divmod__", some "($self, value, /)", some ["Return divmod(self, value)."]⟩,
  ⟨.slot, "__rdivmod__", some "($self, value, /)", some ["Return divmod(value, self)."]⟩,
  ⟨.slot, "__pow__", some "($self, value, mod=None, /)", some ["Return pow(self, value, mod)."]⟩,
  ⟨.slot, "__rpow__", some "($self, value, mod=None, /)", some ["Return pow(value, self, mod)."]⟩,
  ⟨.slot, "__neg__", some "($self, /)", some ["-self"]⟩,
  ⟨.slot, "__pos__", some "($self, /)", some ["+self"]⟩,
  ⟨.slot, "__abs__", some "($self, /)", some ["abs(self)"]⟩,
  ⟨.slot, "__bool__", some "($self, /)", some ["True if self else False"]⟩,
  ⟨.slot, "__invert__", some "($self, /)", some ["~self"]⟩,
  ⟨.slot, "__lshift__", some "($self, value, /)", some ["Return self<<value."]⟩,
  ⟨.slot, "__rlshift__", some "($self, value, /)", some ["Return value<<self."]⟩,
  ⟨.slot, "__rshift__", some "($self, value, /)", some ["Return self>>value."]⟩,
  ⟨.slot, "__rrshift__", some "($self, value, /)", some ["Return value>>self."]⟩,
  ⟨.slot, "__and__", some "($self, value, /)", some ["Return self&value."]⟩,
  ⟨.slot, "__rand__", some "($self, value, /)", some ["Return value&self."]⟩,
  ⟨.slot, "__xor__", some "($self, value, /)", some ["Return self^value."]⟩,
  ⟨.slot, "__rxor__", some "($self, value, /)", some ["Return value^self."]⟩,
  ⟨.slot, "__or__", some "($self, value, /)", some ["Return self|value."]⟩,
  ⟨.slot, "__ror__", some "($self, value, /)", some ["Return value|self."]⟩,
  ⟨.slot, "__int__", some "($self, /)", some ["int(self)"]⟩,
  ⟨.slot, "__float__", some "($self, /)", some ["float(self)"]⟩,
  ⟨.slot, "__floordiv__", some "($self, value, /)", some ["Return self//value."]⟩,
  ⟨.slot, "__rfloordiv__", some "($self, value, /)", some ["Return value//self."]⟩,
  ⟨.slot, "__truediv__", some "($self, value, /)", some ["Return self/value."]⟩,
  ⟨.slot, "__rtruediv__", some "($self, value, /)", some ["Return value/self."]⟩,
  ⟨.slot, "__index__", some "($self, /)",
    some [
     "Return self converted to an integer, if self is suitable for use as an index into a list."]⟩,
  ⟨.method, "conjugate", none, some ["Returns self, the complex conjugate of any int."]⟩,
  ⟨.method, "bit_length", some "($self, /)",
    some ["Number of bits necessary to represent self in binary.", "", ">>> bin(37)",
     "'0b100101'", ">>> (37).bit_length()", "6"]⟩,
  ⟨.method, "bit_count", some "($self, /)",
    some ["Number of ones in the binary representation of the absolute value of self.", "",
     "Also known as the population count.", "", ">>> bin(13)", "'0b1101'", ">>> (13).bit_count()",
     "3"]⟩,
  ⟨.method, "to_bytes", some "($self, /, length=1, byteorder='big', *, signed=False)",
    some ["Return an array of bytes representing an integer.", "", "  length",
     "    Length of bytes object to use.  An OverflowError is raised if the",
     "    integer is not representable with the given number of bytes.  Default",
     "    is length 1.", "  byteorder",
     "    The byte order used to represent the integer.  If byteorder is 'big',",
     "    the most significant byte is at the beginning of the byte array.  If",
     "    byteorder is 'little', the most significant byte is at the end of the",
     "    byte array.  To request the native byte order of the host system, use",
     "    `sys.byteorder' as the byte order value.  Default is to use 'big'.", "  signed",
     "    Determines whether two's complement is used to represent the integer.",
     "    If signed is False and a negative integer is given, an OverflowError", "    is raised."]⟩,
  ⟨.shared, "from_bytes", some "($type, /, bytes, byteorder='big', *, signed=False)",
    some ["Return the integer represented by the given array of bytes.", "", "  bytes",
     "    Holds the array of bytes to convert.  The argument must either",
     "    support the buffer protocol or be an iterable object producing bytes.",
     "    Bytes and bytearray are examples of built-in objects that support the",
     "    buffer protocol.", "  byteorder",
     "    The byte order used to represent the integer.  If byteorder is 'big',",
     "    the most significant byte is at the beginning of the byte array.  If",
     "    byteorder is 'little', the most significant byte is at the end of the",
     "    byte array.  To request the native byte order of the host system, use",
     "    `sys.byteorder' as the byte order value.  Default is to use 'big'.", "  signed",
     "    Indicates whether two's complement is used to represent the integer."]⟩,
  ⟨.method, "as_integer_ratio", some "($self, /)",
    some ["Return integer ratio.", "",
     "Return a pair of integers, whose ratio is exactly equal to the original int",
     "and with a positive denominator.", "", ">>> (10).as_integer_ratio()", "(10, 1)",
     ">>> (-10).as_integer_ratio()", "(-10, 1)", ">>> (0).as_integer_ratio()", "(0, 1)"]⟩,
  ⟨.method, "__trunc__", none, some ["Truncating an Integral returns itself."]⟩,
  ⟨.method, "__floor__", none, some ["Flooring an Integral returns itself."]⟩,
  ⟨.method, "__ceil__", none, some ["Ceiling of an Integral returns itself."]⟩,
  ⟨.method, "__round__", some "($self, ndigits=<unrepresentable>, /)",
    some ["Rounding an Integral returns itself.", "",
     "Rounding with an ndigits argument also returns an integer."]⟩,
  ⟨.method, "__getnewargs__", some "($self, /)", none⟩,
  ⟨.method, "__format__", some "($self, format_spec, /)", none⟩,
  ⟨.method, "__sizeof__", some "($self, /)", some ["Returns size in memory, in bytes."]⟩,
  ⟨.property, "real", none, some ["the real part of a complex number"]⟩,
  ⟨.property, "imag", none, some ["the imaginary part of a complex number"]⟩,
  ⟨.property, "numerator", none, some ["the numerator of a rational number in lowest terms"]⟩,
  ⟨.property, "denominator", none, some ["the denominator of a rational number in lowest terms"]⟩,
  ⟨.constant, "__doc__", none,
    some ["int([x]) -> integer", "int(x, base=10) -> integer", "",
     "Convert a number or string to an integer, or return 0 if no arguments",
     "are given.  If x is a number, return x.__int__().  For floating point",
     "numbers, this truncates towards zero.", "",
     "If x is not a number or if base is given, then x must be a string,",
     "bytes, or bytearray instance representing an integer literal in the",
     "given base.  The literal can be preceded by '+' or '-' and be surrounded",
     "by whitespace.  The base defaults to 10.  Valid bases are 0 and 2-36.",
     "Base 0 means to interpret the base from the string as an integer literal.",
     ">>> int('0b100', base=0)", "4"]⟩]

/-- The members of the missing value. -/
def nothingMembers : List Member := [
  ⟨.made, "__new__", some "($type, *args, **kwargs)",
    some ["Create and return a new object.  See help(type) for accurate signature."]⟩,
  ⟨.slot, "__repr__", some "($self, /)", some ["Return repr(self)."]⟩,
  ⟨.slot, "__bool__", some "($self, /)", some ["True if self else False"]⟩,
  ⟨.constant, "__doc__", none, none⟩]

/-- The members of an operation bound to a value. -/
def boundMembers : List Member := [
  ⟨.slot, "__repr__", some "($self, /)", some ["Return repr(self)."]⟩,
  ⟨.slot, "__hash__", some "($self, /)", some ["Return hash(self)."]⟩,
  ⟨.slot, "__call__", some "($self, /, *args, **kwargs)", some ["Call self as a function."]⟩,
  ⟨.slot, "__getattribute__", some "($self, name, /)", some ["Return getattr(self, name)."]⟩,
  ⟨.slot, "__lt__", some "($self, value, /)", some ["Return self<value."]⟩,
  ⟨.slot, "__le__", some "($self, value, /)", some ["Return self<=value."]⟩,
  ⟨.slot, "__eq__", some "($self, value, /)", some ["Return self==value."]⟩,
  ⟨.slot, "__ne__", some "($self, value, /)", some ["Return self!=value."]⟩,
  ⟨.slot, "__gt__", some "($self, value, /)", some ["Return self>value."]⟩,
  ⟨.slot, "__ge__", some "($self, value, /)", some ["Return self>=value."]⟩,
  ⟨.method, "__reduce__", none, none⟩,
  ⟨.field, "__module__", none, none⟩,
  ⟨.property, "__doc__", none, none⟩,
  ⟨.property, "__name__", none, none⟩,
  ⟨.property, "__qualname__", none, none⟩,
  ⟨.property, "__self__", none, none⟩,
  ⟨.property, "__text_signature__", none, none⟩]

/-- The members of a slot bound to a value. -/
def boundSlotMembers : List Member := [
  ⟨.slot, "__repr__", some "($self, /)", some ["Return repr(self)."]⟩,
  ⟨.slot, "__hash__", some "($self, /)", some ["Return hash(self)."]⟩,
  ⟨.slot, "__call__", some "($self, /, *args, **kwargs)", some ["Call self as a function."]⟩,
  ⟨.slot, "__getattribute__", some "($self, name, /)", some ["Return getattr(self, name)."]⟩,
  ⟨.slot, "__lt__", some "($self, value, /)", some ["Return self<value."]⟩,
  ⟨.slot, "__le__", some "($self, value, /)", some ["Return self<=value."]⟩,
  ⟨.slot, "__eq__", some "($self, value, /)", some ["Return self==value."]⟩,
  ⟨.slot, "__ne__", some "($self, value, /)", some ["Return self!=value."]⟩,
  ⟨.slot, "__gt__", some "($self, value, /)", some ["Return self>value."]⟩,
  ⟨.slot, "__ge__", some "($self, value, /)", some ["Return self>=value."]⟩,
  ⟨.method, "__reduce__", none, none⟩,
  ⟨.field, "__self__", none, none⟩,
  ⟨.property, "__objclass__", none, none⟩,
  ⟨.property, "__name__", none, none⟩,
  ⟨.property, "__qualname__", none, none⟩,
  ⟨.property, "__doc__", none, none⟩,
  ⟨.property, "__text_signature__", none, none⟩]

/-- The members of a slot. -/
def slotMembers : List Member := [
  ⟨.slot, "__repr__", some "($self, /)", some ["Return repr(self)."]⟩,
  ⟨.slot, "__call__", some "($self, /, *args, **kwargs)", some ["Call self as a function."]⟩,
  ⟨.slot, "__getattribute__", some "($self, name, /)", some ["Return getattr(self, name)."]⟩,
  ⟨.slot, "__get__", some "($self, instance, owner=None, /)",
    some ["Return an attribute of instance, which is of type owner."]⟩,
  ⟨.method, "__reduce__", none, none⟩,
  ⟨.field, "__objclass__", none, none⟩,
  ⟨.field, "__name__", none, none⟩,
  ⟨.property, "__doc__", none, none⟩,
  ⟨.property, "__qualname__", none, none⟩,
  ⟨.property, "__text_signature__", none, none⟩]

/-- The members of a method. -/
def methodMembers : List Member := [
  ⟨.slot, "__repr__", some "($self, /)", some ["Return repr(self)."]⟩,
  ⟨.slot, "__call__", some "($self, /, *args, **kwargs)", some ["Call self as a function."]⟩,
  ⟨.slot, "__getattribute__", some "($self, name, /)", some ["Return getattr(self, name)."]⟩,
  ⟨.slot, "__get__", some "($self, instance, owner=None, /)",
    some ["Return an attribute of instance, which is of type owner."]⟩,
  ⟨.method, "__reduce__", none, none⟩,
  ⟨.field, "__objclass__", none, none⟩,
  ⟨.field, "__name__", none, none⟩,
  ⟨.property, "__doc__", none, none⟩,
  ⟨.property, "__qualname__", none, none⟩,
  ⟨.property, "__text_signature__", none, none⟩]

/-- The members of a shared method. -/
def sharedMembers : List Member := [
  ⟨.slot, "__repr__", some "($self, /)", some ["Return repr(self)."]⟩,
  ⟨.slot, "__call__", some "($self, /, *args, **kwargs)", some ["Call self as a function."]⟩,
  ⟨.slot, "__getattribute__", some "($self, name, /)", some ["Return getattr(self, name)."]⟩,
  ⟨.slot, "__get__", some "($self, instance, owner=None, /)",
    some ["Return an attribute of instance, which is of type owner."]⟩,
  ⟨.field, "__objclass__", none, none⟩,
  ⟨.field, "__name__", none, none⟩,
  ⟨.property, "__doc__", none, none⟩,
  ⟨.property, "__qualname__", none, none⟩,
  ⟨.property, "__text_signature__", none, none⟩]

/-- The members of a property. -/
def propertyMembers : List Member := [
  ⟨.slot, "__repr__", some "($self, /)", some ["Return repr(self)."]⟩,
  ⟨.slot, "__getattribute__", some "($self, name, /)", some ["Return getattr(self, name)."]⟩,
  ⟨.slot, "__get__", some "($self, instance, owner=None, /)",
    some ["Return an attribute of instance, which is of type owner."]⟩,
  ⟨.slot, "__set__", some "($self, instance, value, /)",
    some ["Set an attribute of instance to value."]⟩,
  ⟨.slot, "__delete__", some "($self, instance, /)", some ["Delete an attribute of instance."]⟩,
  ⟨.field, "__objclass__", none, none⟩,
  ⟨.field, "__name__", none, none⟩,
  ⟨.property, "__doc__", none, none⟩,
  ⟨.property, "__qualname__", none, none⟩]

/-- The members of a field. -/
def fieldMembers : List Member := [
  ⟨.slot, "__repr__", some "($self, /)", some ["Return repr(self)."]⟩,
  ⟨.slot, "__getattribute__", some "($self, name, /)", some ["Return getattr(self, name)."]⟩,
  ⟨.slot, "__get__", some "($self, instance, owner=None, /)",
    some ["Return an attribute of instance, which is of type owner."]⟩,
  ⟨.slot, "__set__", some "($self, instance, value, /)",
    some ["Set an attribute of instance to value."]⟩,
  ⟨.slot, "__delete__", some "($self, instance, /)", some ["Delete an attribute of instance."]⟩,
  ⟨.method, "__reduce__", none, none⟩,
  ⟨.field, "__objclass__", none, none⟩,
  ⟨.field, "__name__", none, none⟩,
  ⟨.property, "__doc__", none, none⟩,
  ⟨.property, "__qualname__", none, none⟩]

/-- The members of a catalogue of members. -/
def catalogueMembers : List Member := [
  ⟨.made, "__new__", some "($type, *args, **kwargs)",
    some ["Create and return a new object.  See help(type) for accurate signature."]⟩,
  ⟨.slot, "__repr__", some "($self, /)", some ["Return repr(self)."]⟩,
  ⟨.slot, "__str__", some "($self, /)", some ["Return str(self)."]⟩,
  ⟨.slot, "__getattribute__", some "($self, name, /)", some ["Return getattr(self, name)."]⟩,
  ⟨.slot, "__lt__", some "($self, value, /)", some ["Return self<value."]⟩,
  ⟨.slot, "__le__", some "($self, value, /)", some ["Return self<=value."]⟩,
  ⟨.slot, "__eq__", some "($self, value, /)", some ["Return self==value."]⟩,
  ⟨.slot, "__ne__", some "($self, value, /)", some ["Return self!=value."]⟩,
  ⟨.slot, "__gt__", some "($self, value, /)", some ["Return self>value."]⟩,
  ⟨.slot, "__ge__", some "($self, value, /)", some ["Return self>=value."]⟩,
  ⟨.slot, "__iter__", some "($self, /)", some ["Implement iter(self)."]⟩,
  ⟨.slot, "__or__", some "($self, value, /)", some ["Return self|value."]⟩,
  ⟨.slot, "__ror__", some "($self, value, /)", some ["Return value|self."]⟩,
  ⟨.slot, "__ior__", some "($self, value, /)", some ["Return self|=value."]⟩,
  ⟨.slot, "__len__", some "($self, /)", some ["Return len(self)."]⟩,
  ⟨.slot, "__getitem__", some "($self, key, /)", some ["Return self[key]."]⟩,
  ⟨.slot, "__contains__", some "($self, key, /)", some ["Return key in self."]⟩,
  ⟨.method, "get", none, some ["D.get(k[,d]) -> D[k] if k in D, else d.  d defaults to None."]⟩,
  ⟨.method, "keys", none, some ["D.keys() -> a set-like object providing a view on D's keys"]⟩,
  ⟨.method, "values", none, some ["D.values() -> an object providing a view on D's values"]⟩,
  ⟨.method, "items", none, some ["D.items() -> a set-like object providing a view on D's items"]⟩,
  ⟨.method, "copy", none, some ["D.copy() -> a shallow copy of D"]⟩,
  ⟨.shared, "__class_getitem__", none, some ["See PEP 585"]⟩,
  ⟨.method, "__reversed__", none, some ["D.__reversed__() -> reverse iterator"]⟩,
  ⟨.constant, "__doc__", none, none⟩,
  ⟨.constant, "__hash__", none, none⟩]

/-- **The members that a kind has itself.** -/
def members : Kind → List Member
  | .object => objectMembers
  | .kind => kindMembers
  | .text => textMembers
  | .row => rowMembers
  | .number => numberMembers
  | .nothing => nothingMembers
  | .bound => boundMembers
  | .boundSlot => boundSlotMembers
  | .slot => slotMembers
  | .method => methodMembers
  | .shared => sharedMembers
  | .property => propertyMembers
  | .field => fieldMembers
  | .catalogue => catalogueMembers

end LoginGate.Log.Kind
