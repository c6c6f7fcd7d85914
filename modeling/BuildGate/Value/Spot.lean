import BuildGate.Value.Literal

namespace BuildGate.Value

def children : Value → List Value
  | .list xs | .tuple xs | .set xs => xs
  | .dict kvs => kvs.map (·.2)
  | _ => []

def nodeAt (root : Value) : List Nat → Value
  | [] => root
  | i :: rest =>
    match root.children[i]? with
    | some child => nodeAt child rest
    | none => .null

/-- The spot of the `i`-th child of the container at `spot`: a reference leads back to the
container it stands for. -/
def follow (root : Value) (spot : List Nat) (i : Nat) : List Nat :=
  match (root.nodeAt spot).children[i]? with
  | some (.recur d) => spot.take (spot.length - d)
  | _ => spot ++ [i]

mutual

def size : Value → Nat
  | .list xs | .tuple xs | .set xs => 1 + sizes xs
  | .dict kvs => 1 + entrySizes kvs
  | _ => 1

def sizes : List Value → Nat
  | [] => 0
  | x :: xs => size x + sizes xs

def entrySizes : List (Value × Value) → Nat
  | [] => 0
  | (_, v) :: rest => size v + entrySizes rest

end

def literalAt (root : Value) : Nat → List (List Nat) → List Nat → String
  | 0, _, _ => "..."
  | fuel + 1, busy, spot =>
    let inner (n : Nat) : List String :=
      (List.range n).map fun i => literalAt root fuel (spot :: busy) (root.follow spot i)
    match root.nodeAt spot with
    | .list xs =>
      if busy.contains spot then "[...]" else "[" ++ ", ".intercalate (inner xs.length) ++ "]"
    | .dict kvs =>
      if busy.contains spot then "\x7b...\x7d"
      else
        "\x7b" ++ ", ".intercalate ((kvs.map (·.1.literal)).zipWith (· ++ ": " ++ ·)
          (inner kvs.length)) ++ "\x7d"
    | .tuple xs =>
      match inner xs.length with
      | [x] => "(" ++ x ++ ",)"
      | parts => "(" ++ ", ".intercalate parts ++ ")"
    | v => v.literal

def literalOf (root : Value) (spot : List Nat) : String :=
  literalAt root (root.size + 1) [] spot

end BuildGate.Value
