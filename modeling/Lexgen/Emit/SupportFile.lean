import Lexgen.Emit.Lines
import Lexgen.Emit.Literal
import Lexgen.Tid.Basic

namespace Lexgen.Emit

structure SupportFile where
  runtimeModule : String
  /-- The digits of TIDs in ascending order. -/
  alphabet : String
  /-- The number of digits of a TID. -/
  length : Nat
  /-- The number of bits of a clock identifier. -/
  clockBits : Nat
  deriving DecidableEq, Repr

namespace SupportFile

/-- The support of a runtime module, for TIDs as they are read here. -/
def ofRuntime (runtimeModule : String) : SupportFile where
  runtimeModule := runtimeModule
  alphabet := String.ofList Tid.alphabet
  length := Tid.width
  clockBits := Tid.clockBits

def tidModule (f : SupportFile) : String := f.runtimeModule ++ ".TID"

def requestModule (f : SupportFile) : String := f.runtimeModule ++ ".XRPC"

def tidLines (f : SupportFile) : List String :=
  [
    "defmodule " ++ f.tidModule ++ " do",
    "  @moduledoc \"\"\"",
    "  Timestamp identifiers.",
    "",
    "  A TID packs a 53-bit microsecond timestamp and a " ++
      toString f.clockBits ++ "-bit clock id into",
    "  a 63-bit integer, written as " ++ toString f.length ++ " base-32 characters. String order",
    "  matches numeric order.",
    "  \"\"\"",
    "",
    "  import Bitwise",
    "",
    "  @alphabet " ++ quoted f.alphabet,
    "  @length " ++ toString f.length,
    "  @clock_id_bits " ++ toString f.clockBits,
    "  @clock_id_mask (1 <<< @clock_id_bits) - 1",
    "  @max_value (1 <<< 63) - 1",
    "  @timestamp_mask @max_value - @clock_id_mask",
    "",
    "  @type t :: String.t()",
    "",
    "  @doc \"Generates a TID for the current time with a random clock id.\"",
    "  @spec generate() :: t()",
    "  def generate, do: encode(nil, nil)",
    "",
    "  @doc \"\"\"",
    "  Encodes a microsecond timestamp and clock id.",
    "",
    "  A missing timestamp means now; a missing clock id is drawn at random.",
    "  Clock ids are truncated to their low " ++ toString f.clockBits ++ " bits.",
    "  \"\"\"",
    "  @spec encode(non_neg_integer() | nil, non_neg_integer() | nil) :: t()",
    "  def encode(timestamp \\\\ nil, clock_id \\\\ nil) do",
    "    timestamp = timestamp || System.os_time(:microsecond)",
    "    clock_id = clock_id || :rand.uniform(@clock_id_mask + 1) - 1",
    "",
    "    value =",
    "      ((timestamp <<< @clock_id_bits) &&& @timestamp_mask) |||",
    "        (clock_id &&& @clock_id_mask)",
    "",
    "    encode_integer(value)",
    "  end",
    "",
    "  @doc \"Encodes a 63-bit integer as a fixed-width TID string.\"",
    "  @spec encode_integer(non_neg_integer()) :: t()",
    "  def encode_integer(value) do",
    "    for shift <- (@length - 1)..0//-1, into: \"\" do",
    "      binary_part(@alphabet, (value >>> (shift * 5)) &&& 31, 1)",
    "    end",
    "  end",
    "",
    "  @spec decode(t()) ::",
    "          \x7b:ok, %\x7btimestamp: non_neg_integer(), clock_id: non_neg_integer()\x7d\x7d",
    "          | \x7b:error, :invalid_tid\x7d",
    "  def decode(tid) when is_binary(tid) and byte_size(tid) == @length do",
    "    tid",
    "    |> :binary.bin_to_list()",
    "    |> Enum.reduce_while(0, fn char, acc ->",
    "      case :binary.match(@alphabet, <<char>>) do",
    "        \x7bindex, 1\x7d -> \x7b:cont, acc * 32 + index\x7d",
    "        :nomatch -> \x7b:halt, :error\x7d",
    "      end",
    "    end)",
    "    |> case do",
    "      value when is_integer(value) and value <= @max_value ->",
    "        \x7b:ok, %\x7btimestamp: value >>> @clock_id_bits, clock_id: value &&& @clock_id_mask\x7d\x7d",
    "",
    "      _ ->",
    "        \x7b:error, :invalid_tid\x7d",
    "    end",
    "  end",
    "",
    "  def decode(_tid), do: \x7b:error, :invalid_tid\x7d",
    "",
    "  @spec valid?(term()) :: boolean()",
    "  def valid?(tid), do: match?(\x7b:ok, _\x7d, decode(tid))",
    "end"]

def requestLines (f : SupportFile) : List String :=
  [
    "defmodule " ++ f.requestModule ++ " do",
    "  @moduledoc \"\"\"",
    "  Runtime support for generated XRPC modules.",
    "",
    "  A client is a map holding a `:base_url` and a `:request` function. The",
    "  request function receives a request map and returns `\x7b:ok, body\x7d` or",
    "  `\x7b:error, reason\x7d`, so generated code does not depend on an HTTP library.",
    "  \"\"\"",
    "",
    "  @type request :: %\x7b",
    "          method: :get | :post,",
    "          url: String.t(),",
    "          query: %\x7boptional(String.t()) => term()\x7d,",
    "          body: term(),",
    "          content_type: String.t() | nil",
    "        \x7d",
    "",
    "  @type client :: %\x7b",
    "          required(:base_url) => String.t(),",
    "          required(:request) => (request() -> \x7b:ok, term()\x7d | \x7b:error, term()\x7d)",
    "        \x7d",
    "",
    "  @spec query(client(), String.t(), map()) :: \x7b:ok, term()\x7d | \x7b:error, term()\x7d",
    "  def query(client, nsid, params) do",
    "    send_request(client, %\x7b",
    "      method: :get,",
    "      url: url(client, nsid),",
    "      query: params,",
    "      body: nil,",
    "      content_type: nil",
    "    \x7d)",
    "  end",
    "",
    "  @spec procedure(client(), String.t(), term(), String.t() | nil) ::",
    "          \x7b:ok, term()\x7d | \x7b:error, term()\x7d",
    "  def procedure(client, nsid, body, content_type) do",
    "    send_request(client, %\x7b",
    "      method: :post,",
    "      url: url(client, nsid),",
    "      query: %\x7b\x7d,",
    "      body: body,",
    "      content_type: content_type",
    "    \x7d)",
    "  end",
    "",
    "  @doc \"Drops `nil` values and renames parameter atoms to their wire names.\"",
    "  @spec encode_params(map() | keyword(), %\x7boptional(atom()) => String.t()\x7d) ::",
    "          %\x7boptional(String.t()) => term()\x7d",
    "  def encode_params(params, names) do",
    "    for \x7bkey, value\x7d <- params, not is_nil(value), into: %\x7b\x7d do",
    "      \x7bMap.get(names, key, to_string(key)), encode_value(value)\x7d",
    "    end",
    "  end",
    "",
    "  defp encode_value(%DateTime\x7b\x7d = value), do: DateTime.to_iso8601(value)",
    "  defp encode_value(values) when is_list(values), do: Enum.map(values, &encode_value/1)",
    "  defp encode_value(value), do: value",
    "",
    "  defp url(%\x7bbase_url: base_url\x7d, nsid),",
    "    do: String.trim_trailing(base_url, \"/\") <> \"/xrpc/\" <> nsid",
    "",
    "  defp send_request(%\x7brequest: request\x7d, req) when is_function(request, 1), do: request.(req)",
    "  defp send_request(_client, _req), do: \x7b:error, :missing_request_function\x7d",
    "end"]

def tidText (f : SupportFile) : String := unlines (header none ++ f.tidLines)

def requestText (f : SupportFile) : String := unlines (header none ++ f.requestLines)

def toJson (f : SupportFile) : Json :=
  .object [
    ("runtime_module", .string f.runtimeModule),
    ("tid_alphabet", .string f.alphabet),
    ("tid_length", Json.ofNat f.length),
    ("clock_id_bits", Json.ofNat f.clockBits)]

end SupportFile

end Lexgen.Emit
