import ClassAtlas.Element

/-!
Well-known types of the source language's library, with their direct supertypes. Only names are
recorded, which is enough for subtype tests and for namespaces.
-/
namespace ClassAtlas.Host

def standardTable : List (String × TypeKind × List String) :=
  [("java.lang.Object", .plainClass, []),
    ("java.lang.Comparable", .interface, []),
    ("java.lang.CharSequence", .interface, []),
    ("java.lang.Iterable", .interface, []),
    ("java.lang.Cloneable", .interface, []),
    ("java.lang.Number", .plainClass, ["java.lang.Object"]),
    ("java.lang.String", .plainClass,
      ["java.lang.Object", "java.lang.CharSequence", "java.lang.Comparable"]),
    ("java.lang.Boolean", .plainClass, ["java.lang.Object", "java.lang.Comparable"]),
    ("java.lang.Character", .plainClass, ["java.lang.Object", "java.lang.Comparable"]),
    ("java.lang.Byte", .plainClass, ["java.lang.Number", "java.lang.Comparable"]),
    ("java.lang.Short", .plainClass, ["java.lang.Number", "java.lang.Comparable"]),
    ("java.lang.Integer", .plainClass, ["java.lang.Number", "java.lang.Comparable"]),
    ("java.lang.Long", .plainClass, ["java.lang.Number", "java.lang.Comparable"]),
    ("java.lang.Float", .plainClass, ["java.lang.Number", "java.lang.Comparable"]),
    ("java.lang.Double", .plainClass, ["java.lang.Number", "java.lang.Comparable"]),
    ("java.lang.Enum", .plainClass, ["java.lang.Object", "java.lang.Comparable"]),
    ("java.lang.Throwable", .plainClass, ["java.lang.Object"]),
    ("java.util.Iterator", .interface, []),
    ("java.util.ListIterator", .interface, ["java.util.Iterator"]),
    ("java.util.Collection", .interface, ["java.lang.Iterable"]),
    ("java.util.List", .interface, ["java.util.Collection"]),
    ("java.util.Set", .interface, ["java.util.Collection"]),
    ("java.util.SortedSet", .interface, ["java.util.Set"]),
    ("java.util.NavigableSet", .interface, ["java.util.SortedSet"]),
    ("java.util.Queue", .interface, ["java.util.Collection"]),
    ("java.util.Deque", .interface, ["java.util.Queue"]),
    ("java.util.AbstractCollection", .plainClass, ["java.lang.Object", "java.util.Collection"]),
    ("java.util.AbstractList", .plainClass, ["java.util.AbstractCollection", "java.util.List"]),
    ("java.util.AbstractSet", .plainClass, ["java.util.AbstractCollection", "java.util.Set"]),
    ("java.util.ArrayList", .plainClass,
      ["java.util.AbstractList", "java.util.List", "java.lang.Cloneable"]),
    ("java.util.LinkedList", .plainClass,
      ["java.util.AbstractList", "java.util.List", "java.util.Deque"]),
    ("java.util.ArrayDeque", .plainClass, ["java.util.AbstractCollection", "java.util.Deque"]),
    ("java.util.HashSet", .plainClass, ["java.util.AbstractSet", "java.util.Set"]),
    ("java.util.LinkedHashSet", .plainClass, ["java.util.HashSet", "java.util.Set"]),
    ("java.util.TreeSet", .plainClass, ["java.util.AbstractSet", "java.util.NavigableSet"]),
    ("java.util.Map", .interface, []),
    ("java.util.Map.Entry", .interface, []),
    ("java.util.SortedMap", .interface, ["java.util.Map"]),
    ("java.util.NavigableMap", .interface, ["java.util.SortedMap"]),
    ("java.util.AbstractMap", .plainClass, ["java.lang.Object", "java.util.Map"]),
    ("java.util.HashMap", .plainClass, ["java.util.AbstractMap", "java.util.Map"]),
    ("java.util.LinkedHashMap", .plainClass, ["java.util.HashMap", "java.util.Map"]),
    ("java.util.TreeMap", .plainClass, ["java.util.AbstractMap", "java.util.NavigableMap"]),
    ("java.util.concurrent.ConcurrentMap", .interface, ["java.util.Map"]),
    ("java.util.concurrent.ConcurrentHashMap", .plainClass,
      ["java.util.AbstractMap", "java.util.concurrent.ConcurrentMap"]),
    ("java.util.Date", .plainClass, ["java.lang.Object", "java.lang.Comparable"]),
    ("java.util.UUID", .plainClass, ["java.lang.Object", "java.lang.Comparable"]),
    ("java.util.Optional", .plainClass, ["java.lang.Object"]),
    ("java.math.BigDecimal", .plainClass, ["java.lang.Number", "java.lang.Comparable"]),
    ("java.math.BigInteger", .plainClass, ["java.lang.Number", "java.lang.Comparable"]),
    ("java.time.Instant", .plainClass, ["java.lang.Object", "java.lang.Comparable"]),
    ("java.time.LocalDate", .plainClass, ["java.lang.Object", "java.lang.Comparable"])]

def standardType : String × TypeKind × List String → TypeDeclaration
  | (qualifiedName, kind, supertypes) =>
      { place := .known qualifiedName
        name := Text.Dotted.simpleName qualifiedName
        qualifiedName := qualifiedName
        namespaceName := Text.Dotted.namespaceOf qualifiedName
        modifiers := [.isPublic]
        annotations := []
        kind := kind
        supertypes := supertypes.map .bare
        members := [] }

def standardTypes : List TypeDeclaration := standardTable.map standardType

end ClassAtlas.Host
