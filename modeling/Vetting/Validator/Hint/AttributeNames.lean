import Vetting.Text.Scan

/-!
# Vetting.Validator.Hint.AttributeNames

The names of the attributes that things of the general types have.
-/

namespace Vetting

namespace AttributeNames

/-- The words of a line. -/
def words (line : String) : List String := (Text.pieces ' ' line.toList).map String.ofList

/-- The names of what all things have. -/
def commonNames : List String :=
  words
    ("__class__ __delattr__ __dir__ __doc__ __eq__ __format__ __ge__ __getattribute__ " ++
      "__getstate__ __gt__ __hash__ __init__ __init_subclass__ __le__ __lt__ __ne__ __new__ " ++
      "__reduce__ __reduce_ex__ __repr__ __setattr__ __sizeof__ __str__ __subclasshook__")

/-- The names of what the things of a general type have beside those. -/
def ownNames : List (String × List String) :=
  [("int", words
      ("__abs__ __add__ __and__ __bool__ __ceil__ __divmod__ __float__ __floor__ " ++
      "__floordiv__ __getnewargs__ __index__ __int__ __invert__ __lshift__ __mod__ __mul__ " ++
      "__neg__ __or__ __pos__ __pow__ __radd__ __rand__ __rdivmod__ __rfloordiv__ " ++
      "__rlshift__ __rmod__ __rmul__ __ror__ __round__ __rpow__ __rrshift__ __rshift__ " ++
      "__rsub__ __rtruediv__ __rxor__ __sub__ __truediv__ __trunc__ __xor__ " ++
      "as_integer_ratio bit_count bit_length conjugate denominator from_bytes imag " ++
      "numerator real to_bytes")),
   ("float", words
      ("__abs__ __add__ __bool__ __ceil__ __divmod__ __float__ __floor__ __floordiv__ " ++
      "__getformat__ __getnewargs__ __int__ __mod__ __mul__ __neg__ __pos__ __pow__ " ++
      "__radd__ __rdivmod__ __rfloordiv__ __rmod__ __rmul__ __round__ __rpow__ __rsub__ " ++
      "__rtruediv__ __sub__ __truediv__ __trunc__ as_integer_ratio conjugate fromhex hex " ++
      "imag is_integer real")),
   ("complex", words
      ("__abs__ __add__ __bool__ __complex__ __getnewargs__ __mul__ __neg__ __pos__ __pow__ " ++
      "__radd__ __rmul__ __rpow__ __rsub__ __rtruediv__ __sub__ __truediv__ conjugate imag " ++
      "real")),
   ("str", words
      ("__add__ __contains__ __getitem__ __getnewargs__ __iter__ __len__ __mod__ __mul__ " ++
      "__rmod__ __rmul__ capitalize casefold center count encode endswith expandtabs find " ++
      "format format_map index isalnum isalpha isascii isdecimal isdigit isidentifier " ++
      "islower isnumeric isprintable isspace istitle isupper join ljust lower lstrip " ++
      "maketrans partition removeprefix removesuffix replace rfind rindex rjust rpartition " ++
      "rsplit rstrip split splitlines startswith strip swapcase title translate upper zfill")),
   ("bytes", words
      ("__add__ __bytes__ __contains__ __getitem__ __getnewargs__ __iter__ __len__ __mod__ " ++
      "__mul__ __rmod__ __rmul__ capitalize center count decode endswith expandtabs find " ++
      "fromhex hex index isalnum isalpha isascii isdigit islower isspace istitle isupper " ++
      "join ljust lower lstrip maketrans partition removeprefix removesuffix replace rfind " ++
      "rindex rjust rpartition rsplit rstrip split splitlines startswith strip swapcase " ++
      "title translate upper zfill")),
   ("list", words
      ("__add__ __class_getitem__ __contains__ __delitem__ __getitem__ __iadd__ __imul__ " ++
      "__iter__ __len__ __mul__ __reversed__ __rmul__ __setitem__ append clear copy count " ++
      "extend index insert pop remove reverse sort")),
   ("tuple", words
      ("__add__ __class_getitem__ __contains__ __getitem__ __getnewargs__ __iter__ __len__ " ++
      "__mul__ __rmul__ count index")),
   ("dict", words
      ("__class_getitem__ __contains__ __delitem__ __getitem__ __ior__ __iter__ __len__ " ++
      "__or__ __reversed__ __ror__ __setitem__ clear copy fromkeys get items keys pop " ++
      "popitem setdefault update values")),
   ("set", words
      ("__and__ __class_getitem__ __contains__ __iand__ __ior__ __isub__ __iter__ __ixor__ " ++
      "__len__ __or__ __rand__ __ror__ __rsub__ __rxor__ __sub__ __xor__ add clear copy " ++
      "difference difference_update discard intersection intersection_update isdisjoint " ++
      "issubset issuperset pop remove symmetric_difference symmetric_difference_update " ++
      "union update")),
   ("frozenset", words
      ("__and__ __class_getitem__ __contains__ __iter__ __len__ __or__ __rand__ __ror__ " ++
      "__rsub__ __rxor__ __sub__ __xor__ copy difference intersection isdisjoint issubset " ++
      "issuperset symmetric_difference union")),
   ("function", words
      ("__annotations__ __builtins__ __call__ __closure__ __code__ __defaults__ __dict__ " ++
      "__get__ __globals__ __kwdefaults__ __module__ __name__ __qualname__")),
   ("builtin_function_or_method", words
      ("__call__ __module__ __name__ __qualname__ __self__ __text_signature__")),
   ("method", words
      ("__call__ __func__ __self__")),
   ("NoneType", words
      ("__bool__")),
   ("BaseException", words
      ("__cause__ __context__ __dict__ __setstate__ __suppress_context__ __traceback__ " ++
      "add_note args with_traceback")),
   ("range", words
      ("__bool__ __contains__ __getitem__ __iter__ __len__ __reversed__ count index start " ++
      "step stop")),
   ("dict_keys", words
      ("__and__ __contains__ __iter__ __len__ __or__ __rand__ __reversed__ __ror__ __rsub__ " ++
      "__rxor__ __sub__ __xor__ isdisjoint mapping")),
   ("dict_items", words
      ("__and__ __contains__ __iter__ __len__ __or__ __rand__ __reversed__ __ror__ __rsub__ " ++
      "__rxor__ __sub__ __xor__ isdisjoint mapping")),
   ("dict_values", words
      ("__iter__ __len__ __reversed__ mapping")),
   ("slice", words
      ("indices start step stop")),
   ("property", words
      ("__delete__ __get__ __isabstractmethod__ __set__ __set_name__ deleter fdel fget fset " ++
      "getter setter")),
   ("staticmethod", words
      ("__call__ __dict__ __func__ __get__ __isabstractmethod__ __wrapped__")),
   ("classmethod", words
      ("__dict__ __func__ __get__ __isabstractmethod__ __wrapped__")),
   ("types.UnionType", words
      ("__args__ __getitem__ __or__ __parameters__ __ror__")),
   ("types.GenericAlias", words
      ("__args__ __call__ __getitem__ __instancecheck__ __iter__ __mro_entries__ __or__ " ++
      "__origin__ __parameters__ __ror__ __subclasscheck__ __typing_unpacked_tuple_args__ " ++
      "__unpacked__")),
   ("generator", words
      ("__del__ __iter__ __name__ __next__ __qualname__ close gi_code gi_frame gi_running " ++
      "gi_suspended gi_yieldfrom send throw")),
   ("type", words
      ("__abstractmethods__ __annotations__ __base__ __bases__ __basicsize__ __call__ " ++
      "__dict__ __dictoffset__ __flags__ __instancecheck__ __itemsize__ __module__ __mro__ " ++
      "__name__ __or__ __prepare__ __qualname__ __ror__ __subclasscheck__ __subclasses__ " ++
      "__text_signature__ __weakrefoffset__ mro"))]

end AttributeNames

end Vetting
