import ShaderBinding.Pattern.Expression

/-! The search for a match in a text, by a machine of nodes. All attempts go through the text side
by side, one character at a time, and an attempt is known by the node that it has come to. So the
time is bounded by the number of nodes, however many ways lead to a node. -/

namespace ShaderBinding

namespace Pattern

/-- What an attempt does at a node; nodes are known by their places. -/
inductive Node where
  | take (ranges : List CharRange) (next : Nat)
  | check (condition : Condition) (next : Nat)
  | fork (a b : Nat)
  | done
  deriving DecidableEq, Repr

structure Machine where
  nodes : Array Node
  start : Nat
  deriving DecidableEq, Repr

namespace Machine

def add (node : Node) (nodes : Array Node) : Machine :=
  let place := nodes.size
  ⟨nodes.push node, place⟩

def before : Expression → Nat → Array Node → Machine
  | .empty => fun next nodes => ⟨nodes, next⟩
  | .literal chars => fun next nodes =>
    chars.foldr (fun char machine => add (.take [(char, char)] machine.start) machine.nodes)
      ⟨nodes, next⟩
  | .oneOf ranges _ => fun next nodes => add (.take ranges next) nodes
  | .condition c => fun next nodes => add (.check c next) nodes
  | .sequence first rest => fun next nodes =>
    let ⟨nodes, next⟩ := before rest next nodes
    before first next nodes
  | .either branch rest => fun next nodes =>
    let ⟨nodes, b⟩ := before rest next nodes
    let ⟨nodes, a⟩ := before branch next nodes
    add (.fork a b) nodes
  | .group _ body => before body
  | .repeated body least most _ => fun next nodes =>
    let once (machine : Machine) : Machine :=
      let ⟨nodes, next⟩ := machine
      before body next nodes
    let perhaps (machine : Machine) : Machine :=
      let ⟨nodes, a⟩ := once machine
      add (.fork a next) nodes
    match most with
    | none =>
      let back := nodes.size
      let ⟨nodes, a⟩ := before body back (nodes.push .done)
      let nodes := nodes.setIfInBounds back (.fork a next)
      if least = 0 then ⟨nodes, back⟩ else Nat.repeat once (least - 1) ⟨nodes, a⟩
    | some most => Nat.repeat once least (Nat.repeat perhaps (most - least) ⟨nodes, next⟩)

def ofExpression (expression : Expression) : Machine :=
  let ⟨nodes, stop⟩ := add .done #[]
  before expression stop nodes

/-- What attempts come to at one point of a text. -/
structure Reach where
  finished : Bool
  /-- For each node the last round in which it was come to. -/
  rounds : Array Nat
  /-- The characters that the attempts ask for, and where they go then. -/
  takes : List (List CharRange × Nat)

/-- Follows attempts up to where they take a character. No node is followed twice in a round, so as
many steps are enough as there are ways out of all nodes, and attempts. -/
def follow (nodes : Array Node) (point : Point) (round : Nat) :
    Nat → List Nat → Array Nat → List (List CharRange × Nat) → Reach
  | 0, _, rounds, takes | _, [], rounds, takes => ⟨false, rounds, takes⟩
  | steps + 1, place :: rest, rounds, takes =>
    if rounds[place]? = some round then follow nodes point round steps rest rounds takes
    else
      let rounds := rounds.setIfInBounds place round
      match nodes[place]? with
      | some (.take ranges next) =>
        follow nodes point round steps rest rounds ((ranges, next) :: takes)
      | some (.check c next) =>
        follow nodes point round steps (if c.holds point then next :: rest else rest) rounds takes
      | some (.fork a b) => follow nodes point round steps (a :: b :: rest) rounds takes
      | some .done => ⟨true, rounds, takes⟩
      | none => follow nodes point round steps rest rounds takes

/-- Whether some attempt succeeds in a text, a new one being made at each point. -/
def search (machine : Machine) (round : Nat) (before : Option Char) (places : List Nat)
    (rounds : Array Nat) (text : List Char) : Bool :=
  let places := machine.start :: places
  let reach := follow machine.nodes ⟨before, text.head?⟩ round
    (places.length + 2 * machine.nodes.size + 1) places rounds []
  reach.finished ||
    match text with
    | [] => false
    | char :: rest =>
      let places := reach.takes.filterMap fun (ranges, next) =>
        if ranges.any (CharRange.contains · char) then some next else none
      machine.search (round + 1) (some char) places reach.rounds rest

def findsIn (machine : Machine) (text : List Char) : Bool :=
  machine.search 1 none [] (Array.replicate machine.nodes.size 0) text

/-- A word of at least two letters at the end of a text. -/
example :
    let word := Expression.repeated (.oneOf [('a', 'z')] false) 2 none true
    let machine := ofExpression (.sequence word (.condition .textStop))
    machine.findsIn ['A', 'b', 'c'] ∧ !machine.findsIn ['b', 'c', '.', 'c'] := by decide +kernel

/-- A part that may take nothing ends a repetition. -/
example :
    let part := Expression.repeated (.literal ['a']) 0 none true
    let machine := ofExpression (.sequence (.repeated part 0 none true) (.literal ['b']))
    machine.findsIn ['a', 'a', 'b'] ∧ !machine.findsIn ['a', 'a'] := by decide +kernel

end Machine

end Pattern

end ShaderBinding
