import ShaderPrep.Unicode.Runs

/-!
The roles of characters where text is cut into clusters, words and sentences. A dash stands for
characters without a role of their own.
-/
namespace ShaderPrep.Unicode

/-- The role in clusters that show as one character. -/
def clusterRuns : Runs := .read
  ["CN10LF1CN2CR1CN18-95CN33-13CN1-594EX112-275EX7-263EX45-1EX1-1EX2-1EX2-1EX1-56PP6-10EX11-1CN1",
   "-46EX21-16EX1-101EX7PP1-1EX6-2EX2-1EX4-33PP1-1EX1-30EX27-91EX11-58EX9-9EX1-24EX4-1EX9-1EX3-1",
   "EX5-43EX3-52PP2-5EX9-42EX24PP1EX32SM1-54EX1SM1EX1-1SM3EX8SM4EX1SM2-1EX7-10EX2-29EX1SM2-56EX1",
   "-1EX1SM2EX4-2SM2-2SM2EX1-9EX1-10EX2-26EX1-2EX2SM1-56EX1-1SM3EX2-4EX2-2EX3-3EX1-30EX2-3EX1-11",
   "EX2SM1-56EX1-1SM3EX5-1EX2SM1-1SM2EX1-20EX2-22EX6-1EX1SM2-56EX1-1EX2SM1EX4-2SM2-2SM2EX1-7EX3",
   "-10EX2-30EX1-59EX1SM1EX1SM2-3SM3-1SM3EX1-9EX1-40EX1SM3EX1-55EX1-1EX3SM4-1EX3-1EX4-7EX2-11EX2",
   "-29EX1SM2-56EX1-1SM1EX2SM1EX1SM2-1EX3-1EX4-7EX2-11EX2-15SM1-12EX2SM2-55EX2-1EX1SM2EX4-1SM3-1",
   "SM3EX1PP1-8EX1-10EX2-29EX1SM2-70EX1-4EX1SM2EX3-1EX1-1SM7EX1-18SM2-61EX1-1SM1EX7-12EX8-98EX1",
   "-1SM1EX9-11EX7-73EX2-27EX1-1EX1-1EX1-4SM2-49EX14SM1EX5-1EX2-5EX11-1EX36-9EX1-102EX4SM1EX6-1",
   "EX2SM2EX2-23SM2EX2-4EX3-16EX4-13EX1-1SM1EX2-6EX1-15EX1-98L96V72T88-349EX3-946EX4-28EX3-29EX2",
   "-30EX2-64EX2SM1EX7SM8EX1SM2EX11-9EX1-45EX3CN1EX1-117EX2-34EX1-118EX3SM4EX2SM3-4SM2EX1SM6EX3",
   "-219EX2SM2EX1-57SM1EX1SM1EX7-1EX1-1EX1-2EX8SM6EX10-2EX1-48EX31-49EX4SM1-47EX10SM4EX3-38EX9",
   "-12EX2SM1-30SM1EX4SM2EX6-56EX1SM1EX2SM3EX1SM1EX5-48SM8EX8SM2EX2-152EX3-1EX13SM1EX7-4EX1-6EX1",
   "-2SM1EX2-198EX64-523CN1EX1ZWJ1CN2-24CN7-49CN16-96EX33-3070EX3-141EX1-96EX32-554EX6-105EX2",
   "-30164EX4-1EX10-32EX2-80EX2-272EX1-3EX1-4EX1-23SM2EX2SM1-4EX1-83SM2-50SM16EX2-26EX18-13EX1",
   "-38EX8-25EX11SM1EX1-12L29-3EX3SM1-47EX1SM2EX4SM2EX2SM2EX1-36EX1-67EX6SM2EX2SM2EX2-12EX1-8EX1",
   "SM1-46EX1-51EX1-1EX3-2EX2-5EX2-1EX1-41SM1EX2SM2-5SM1EX1-236SM2EX1SM2EX1SM2-1SM1EX1-18LV1",
   "LVT27LV1LVT27LV1LVT27LV1LVT27LV1LVT27LV1LVT27LV1LVT27LV1LVT27LV1LVT27LV1LVT27LV1LVT27LV1",
   "LVT27LV1LVT27LV1LVT27LV1LVT27LV1LVT27LV1LVT27LV1LVT27LV1LVT27LV1LVT27LV1LVT27LV1LVT27LV1",
   "LVT27LV1LVT27LV1LVT27LV1LVT27LV1LVT27LV1LVT27LV1LVT27LV1LVT27LV1LVT27LV1LVT27LV1LVT27LV1",
   "LVT27LV1LVT27LV1LVT27LV1LVT27LV1LVT27LV1LVT27LV1LVT27LV1LVT27LV1LVT27LV1LVT27LV1LVT27LV1",
   "LVT27LV1LVT27LV1LVT27LV1LVT27LV1LVT27LV1LVT27LV1LVT27LV1LVT27LV1LVT27LV1LVT27LV1LVT27LV1",
   "LVT27LV1LVT27LV1LVT27LV1LVT27LV1LVT27LV1LVT27LV1LVT27LV1LVT27LV1LVT27LV1LVT27LV1LVT27LV1",
   "LVT27LV1LVT27LV1LVT27LV1LVT27LV1LVT27LV1LVT27LV1LVT27LV1LVT27LV1LVT27LV1LVT27LV1LVT27LV1",
   "LVT27LV1LVT27LV1LVT27LV1LVT27LV1LVT27LV1LVT27LV1LVT27LV1LVT27LV1LVT27LV1LVT27LV1LVT27LV1",
   "LVT27LV1LVT27LV1LVT27LV1LVT27LV1LVT27LV1LVT27LV1LVT27LV1LVT27LV1LVT27LV1LVT27LV1LVT27LV1",
   "LVT27LV1LVT27LV1LVT27LV1LVT27LV1LVT27LV1LVT27LV1LVT27LV1LVT27LV1LVT27LV1LVT27LV1LVT27LV1",
   "LVT27LV1LVT27LV1LVT27LV1LVT27LV1LVT27LV1LVT27LV1LVT27LV1LVT27LV1LVT27LV1LVT27LV1LVT27LV1",
   "LVT27LV1LVT27LV1LVT27LV1LVT27LV1LVT27LV1LVT27LV1LVT27LV1LVT27LV1LVT27LV1LVT27LV1LVT27LV1",
   "LVT27LV1LVT27LV1LVT27LV1LVT27LV1LVT27LV1LVT27LV1LVT27LV1LVT27LV1LVT27LV1LVT27LV1LVT27LV1",
   "LVT27LV1LVT27LV1LVT27LV1LVT27LV1LVT27LV1LVT27LV1LVT27LV1LVT27LV1LVT27LV1LVT27LV1LVT27LV1",
   "LVT27LV1LVT27LV1LVT27LV1LVT27LV1LVT27LV1LVT27LV1LVT27LV1LVT27LV1LVT27LV1LVT27LV1LVT27LV1",
   "LVT27LV1LVT27LV1LVT27LV1LVT27LV1LVT27LV1LVT27LV1LVT27LV1LVT27LV1LVT27LV1LVT27LV1LVT27LV1",
   "LVT27LV1LVT27LV1LVT27LV1LVT27LV1LVT27LV1LVT27LV1LVT27LV1LVT27LV1LVT27LV1LVT27LV1LVT27LV1",
   "LVT27LV1LVT27LV1LVT27LV1LVT27LV1LVT27LV1LVT27LV1LVT27LV1LVT27LV1LVT27LV1LVT27LV1LVT27LV1",
   "LVT27LV1LVT27LV1LVT27LV1LVT27LV1LVT27LV1LVT27LV1LVT27LV1LVT27LV1LVT27LV1LVT27LV1LVT27LV1",
   "LVT27LV1LVT27LV1LVT27LV1LVT27LV1LVT27LV1LVT27LV1LVT27LV1LVT27LV1LVT27LV1LVT27LV1LVT27LV1",
   "LVT27LV1LVT27LV1LVT27LV1LVT27LV1LVT27LV1LVT27LV1LVT27LV1LVT27LV1LVT27LV1LVT27LV1LVT27LV1",
   "LVT27LV1LVT27LV1LVT27LV1LVT27LV1LVT27LV1LVT27LV1LVT27LV1LVT27LV1LVT27LV1LVT27LV1LVT27LV1",
   "LVT27LV1LVT27LV1LVT27LV1LVT27LV1LVT27LV1LVT27LV1LVT27LV1LVT27LV1LVT27LV1LVT27LV1LVT27LV1",
   "LVT27LV1LVT27LV1LVT27LV1LVT27LV1LVT27LV1LVT27LV1LVT27LV1LVT27LV1LVT27LV1LVT27LV1LVT27LV1",
   "LVT27LV1LVT27LV1LVT27LV1LVT27LV1LVT27LV1LVT27LV1LVT27LV1LVT27LV1LVT27LV1LVT27LV1LVT27LV1",
   "LVT27LV1LVT27LV1LVT27LV1LVT27LV1LVT27LV1LVT27LV1LVT27LV1LVT27LV1LVT27LV1LVT27LV1LVT27LV1",
   "LVT27LV1LVT27LV1LVT27LV1LVT27LV1LVT27LV1LVT27LV1LVT27LV1LVT27LV1LVT27LV1LVT27LV1LVT27LV1",
   "LVT27LV1LVT27LV1LVT27LV1LVT27LV1LVT27LV1LVT27LV1LVT27LV1LVT27LV1LVT27LV1LVT27LV1LVT27LV1",
   "LVT27LV1LVT27LV1LVT27LV1LVT27LV1LVT27LV1LVT27LV1LVT27LV1LVT27LV1LVT27LV1LVT27LV1LVT27LV1",
   "LVT27LV1LVT27LV1LVT27LV1LVT27LV1LVT27LV1LVT27LV1LVT27LV1LVT27LV1LVT27LV1LVT27LV1LVT27LV1",
   "LVT27LV1LVT27LV1LVT27LV1LVT27LV1LVT27LV1LVT27LV1LVT27LV1LVT27LV1LVT27LV1LVT27LV1LVT27LV1",
   "LVT27LV1LVT27LV1LVT27LV1LVT27LV1LVT27LV1LVT27LV1LVT27LV1LVT27LV1LVT27LV1LVT27LV1LVT27LV1",
   "LVT27LV1LVT27LV1LVT27LV1LVT27LV1LVT27LV1LVT27LV1LVT27LV1LVT27LV1LVT27LV1LVT27LV1LVT27LV1",
   "LVT27LV1LVT27LV1LVT27LV1LVT27LV1LVT27LV1LVT27LV1LVT27LV1LVT27LV1LVT27LV1LVT27LV1LVT27LV1",
   "LVT27LV1LVT27LV1LVT27LV1LVT27LV1LVT27LV1LVT27LV1LVT27LV1LVT27LV1LVT27LV1LVT27LV1LVT27LV1",
   "LVT27LV1LVT27LV1LVT27LV1LVT27LV1LVT27LV1LVT27LV1LVT27LV1LVT27LV1LVT27LV1LVT27LV1LVT27LV1",
   "LVT27LV1LVT27LV1LVT27-12V23-4T49-8994EX1-737EX16-16EX16-207CN1-158EX2-80CN12-513EX1-226EX1",
   "-149EX5-1670EX3-1EX2-5EX4-40EX3-4EX1-165EX2-573EX4-65EX5-317EX2-79EX4-70EX11-49EX4-122SM1EX1",
   "SM1-53EX15-41EX1-2EX2-10EX3SM1-45SM3EX4SM2EX2-2PP1-4EX1-10PP1-50EX3-36EX5SM1EX8-16SM2-44EX1",
   "-12EX2SM1-48SM3EX9SM1EX1-1PP2-5EX4-1SM1EX1-92SM3EX3SM2EX4-6EX1-2EX1-157EX1SM3EX8-21EX2SM2-55",
   "EX2-1EX1SM1EX1SM4-2SM2-2SM2EX1-9EX1-10SM2-2EX7-3EX5-67EX1SM2EX6-1EX1-2EX1-1EX3SM1-1SM2EX3PP1",
   "EX1-14EX2-82SM3EX8SM2EX3SM1EX1-23EX1-81EX1SM2EX6SM1EX1SM2EX1SM1EX2SM1EX2-235EX1SM2EX4-2SM4",
   "EX2SM1EX2-27EX2-82SM3EX8SM2EX1SM1EX2-106EX1SM1EX1SM2EX8-101EX1SM1EX1-2EX4SM1EX5-256SM3EX9SM1",
   "EX2-245EX1SM5-1SM2-2EX4PP1SM1PP1SM1EX1-141SM3EX4-2EX2SM4EX1-3SM1-28EX10-40EX6SM1PP1EX4-8EX1",
   "-9EX6SM2EX3-40PP6EX13SM1EX2-405SM1EX7-1EX6SM1EX1-82EX22-1SM1EX7SM1EX2SM1EX2-122EX6-3EX1-1EX2",
   "-1EX7PP1EX1-66SM5-1EX2-1SM2EX1SM1EX1-347EX2SM2-9EX2PP1SM1-48SM2EX5-3SM2EX3-23EX1-5333CN16EX1",
   "-6EX15-11464EX12SM3EX3-2496EX5-59EX7-556V1-3V4-484EX1-1SM55-7EX4-81EX1-11EX2-19627EX2-1CN4",
   "-4700EX46-2EX23-542EX5-3EX6CN8EX8-2EX7-30EX4-148EX3-1979EX55-4EX50-8EX1-14EX1-22EX5-1EX15",
   "-1360EX7-1EX17-2EX7-1EX2-1EX5-100EX1-160EX7-375EX1-61EX4-508EX4-254EX2-736EX7-109EX7-2203",
   "RI26-507EX5-789504CN32EX96CN128EX240CN3600-192512"]

/-- The role in words. -/
def wordBreakRuns : Runs := .read
  ["-10LF1NL2CR1-18Wsegspace1-1DQ1-4SQ1-4MN1-1MB1-1NU10ML1MN1-5LE26-4EX1-1LE26-10NL1-36LE1-2FO1",
   "-7LE1-1ML1-2LE1-5LE23-1LE31-1LE480-6LE34Extend112LE5-1LE2-2LE4MN1LE1-6LE1ML1LE3-1LE1-1LE20-1",
   "LE83-1LE139-1Extend7LE166-1LE38-2LE4-1LE1ML1LE41MN1LE1-6Extend45-1Extend1-1Extend2-1Extend2",
   "-1Extend1-8HL27-4HL4LE1ML1-11NU6-6MN2-2Extend11-1FO1-3LE43Extend21NU10-1NU1MN1-1LE2Extend1",
   "LE99-1LE1Extend7NU1-1Extend6LE2Extend2-1Extend4LE2NU10LE3-2LE1-15LE2Extend1LE30Extend27-2",
   "LE89Extend11LE1-14NU10LE33Extend9LE2-2MN1-1LE1-2Extend1-2LE22Extend4LE1Extend9LE1Extend3LE1",
   "Extend5-18LE25Extend3-4LE11-5LE24-1LE6-1NU2-5Extend9LE42Extend24NU1Extend33LE54Extend3LE1",
   "Extend18LE1Extend7LE10Extend2-2NU10-1LE16Extend3-1LE8-2LE2-2LE22-1LE7-1LE1-3LE4-2Extend1LE1",
   "Extend7-2Extend2-2Extend3LE1-8Extend1-4LE2-1LE3Extend2-2NU10LE2-10LE1-1Extend1-2Extend3-1LE6",
   "-4LE2-2LE22-1LE7-1LE2-1LE2-1LE2-2Extend1-1Extend5-4Extend2-2Extend3-3Extend1-7LE4-1LE1-7NU10",
   "Extend2LE3Extend1-11Extend3-1LE9-1LE3-1LE22-1LE7-1LE2-1LE5-2Extend1LE1Extend8-1Extend3-1",
   "Extend3-2LE1-15LE2Extend2-2NU10-9LE1Extend6-1Extend3-1LE8-2LE2-2LE22-1LE7-1LE2-1LE5-2Extend1",
   "LE1Extend7-2Extend2-2Extend3-7Extend3-4LE2-1LE3Extend2-2NU10-1LE1-16Extend1LE1-1LE6-3LE3-1",
   "LE4-3LE2-1LE1-1LE2-3LE2-3LE3-3LE12-4Extend5-3Extend3-1Extend4-2LE1-6Extend1-14NU10-16Extend5",
   "LE8-1LE3-1LE23-1LE16-2Extend1LE1Extend7-1Extend3-1Extend4-7Extend2-1LE3-2LE1-2LE2Extend2-2",
   "NU10-16LE1Extend3-1LE8-1LE3-1LE23-1LE10-1LE5-2Extend1LE1Extend7-1Extend3-1Extend4-7Extend2-6",
   "LE2-1LE2Extend2-2NU10-1LE2Extend1-12Extend4LE9-1LE3-1LE41Extend2LE1Extend7-1Extend3-1Extend4",
   "LE1-5LE3Extend1-7LE3Extend2-2NU10-10LE6-1Extend3-1LE18-3LE24-1LE9-1LE1-2LE7-3Extend1-4",
   "Extend6-1Extend1-1Extend8-6NU10-2Extend2-61Extend1-2Extend7-12Extend8-1NU10-87Extend1-2",
   "Extend9-11Extend7-1NU10-38LE1-23Extend2-6NU10-11Extend1-1Extend1-1Extend1-4Extend2LE8-1LE36",
   "-4Extend20-1Extend2LE5Extend11-1Extend36-9Extend1-100Extend20-1NU10-12Extend4-4Extend3-1",
   "Extend3-2Extend7-3Extend4-13Extend12-1Extend1NU10Extend4-2LE38-1LE1-5LE1-2LE43-1LE333-1LE4-2",
   "LE7-1LE1-1LE4-2LE41-1LE4-2LE33-1LE4-2LE7-1LE1-1LE4-2LE15-1LE57-1LE4-2LE67-2Extend3-32LE16-16",
   "LE86-2LE6-3LE620-2LE17Wsegspace1LE26-5LE75-3LE11-7LE18Extend4-9LE19Extend3-11LE18Extend2-12",
   "LE13-1LE3-1Extend2-64Extend32-9Extend1-2NU10-33Extend3FO1Extend1NU10-6LE89-7LE5Extend2LE34",
   "Extend1LE1-5LE70-10LE31-1Extend12-4Extend12-10NU10-128NU11-37LE23Extend5-57Extend10-1",
   "Extend29-2Extend1NU10-6NU10-22Extend31-49Extend5LE47Extend17LE8-3NU10-17Extend9-12Extend3",
   "LE30Extend13LE2NU10LE44Extend14-12LE36Extend20-8NU10-3LE3NU10LE36-2LE11-5LE43-2LE3-16Extend3",
   "-1Extend21LE4Extend1LE6Extend1LE2Extend3LE1-5LE192Extend64LE278-2LE6-2LE38-2LE6-2LE8-1LE1-1",
   "LE1-1LE1-1LE31-2LE53-1LE7-1LE1-3LE3-1LE7-3LE4-2LE6-4LE13-5LE3-1LE7-3Wsegspace7-1Wsegspace3-1",
   "Extend1ZWJ1FO2-8MB2-10MB1-2ML1NL2FO5EX1-15EX2-3MN1-15EX1-10Wsegspace1FO5-1FO10-1LE1-13LE1-16",
   "LE13-51Extend33-17LE1-4LE1-2LE10-1LE1-3LE5-6LE1-1LE1-1LE1-1LE4-1LE11-2LE4-5LE5-4LE1-17LE41",
   "-813LE52-1814LE229-6LE4Extend3LE2-12LE38-1LE1-5LE1-2LE56-7LE1-15Extend1LE23-9LE7-1LE7-1LE7-1",
   "LE7-1LE7-1LE7-1LE7-1LE7-1Extend32-47LE1-464Wsegspace1-4LE1-36Extend6-1KA5-5LE2-92Extend2KA2",
   "-3KA91-1KA4-5LE43-1LE94-17LE32-48KA16-208KA47-1KA88-27816LE1165-67LE46-2LE269-3LE16NU10LE2",
   "-20LE47Extend4-1Extend10-1LE31Extend2LE80Extend2-22LE198-2LE2-1LE1-1LE8-21LE16Extend1LE3",
   "Extend1LE4Extend1LE23Extend5-4Extend1-19LE52-12Extend2LE50Extend18-10NU10-6Extend18LE6-3LE1",
   "-1LE2Extend1NU10LE28Extend8-2LE23Extend13-12LE29-3Extend4LE47Extend14-14LE1NU10-11Extend1-10",
   "NU10-6LE41Extend14-9LE3Extend1LE8Extend2-2NU10-33Extend3-50Extend1-1Extend3-2Extend2-5",
   "Extend2-1Extend1-30LE11Extend5-2LE3Extend2-10LE6-2LE6-2LE6-9LE7-1LE7-1LE58-6LE115Extend8-1",
   "Extend2-2NU10-6LE11172-12LE23-4LE49-8964LE7-12LE5-5HL1Extend1HL10-1HL13-1HL5-1HL1-1HL2-1HL2",
   "-1HL10LE98-33LE363-18LE64-2LE54-40LE12-4Extend16-3ML1-12Extend16-3EX2-24EX3MN1-1MB1-1MN1ML1",
   "-26LE5-1LE135-2FO1-7MB1-4MN1-1MB1-1NU10ML1MN1-5LE26-4EX1-1LE26-11KA56Extend2LE31-3LE6-2LE6-2",
   "LE6-2LE3-28FO3-4LE12-1LE26-1LE19-1LE2-1LE15-2LE14-34LE123-69LE53-136Extend1-130LE29-3LE49-15",
   "Extend1-31LE32-13LE30-5LE38Extend5-5LE30-2LE36-4LE8-1LE5-42LE158-2NU10-6LE36-4LE36-4LE40-8",
   "LE52-12LE11-1LE15-1LE7-1LE2-1LE11-1LE15-1LE7-1LE2-3LE52-12LE311-9LE22-10LE8-24LE6-1LE42-1LE9",
   "-69LE6-2LE1-1LE44-1LE2-3LE1-2LE23-10LE23-9LE31-65LE19-1LE2-10LE22-10LE26-70LE56-6LE2-64LE1",
   "Extend3-1Extend2-5Extend4LE4-1LE3-1LE29-2Extend3-4Extend1-32LE29-3LE29-35LE8-1LE28Extend2-25",
   "LE54-10LE22-10LE19-13LE18-110LE73-55LE51-13LE51-13LE36Extend4-8NU10-6NU10LE28-3Extend5-1LE23",
   "-250LE42-1Extend2-3LE2-16LE3-55Extend4LE29-10LE1-8LE22Extend11-31LE18Extend4-42LE21-27LE23-9",
   "Extend3LE53Extend15-31NU10Extend1LE2Extend2LE1-9Extend4LE45Extend11-2NU1-4Extend1-10NU1-2",
   "LE25-7NU10-6Extend3LE36Extend14-1NU10-4LE1Extend2LE1-8LE35Extend1-2LE1-9Extend3LE48Extend14",
   "LE4-4Extend4-1Extend2NU10LE1-1LE1-35LE18-1LE25Extend12-6Extend1LE2Extend1-62LE7-1LE1-1LE4-1",
   "LE15-1LE10-7LE47Extend12-5NU10-6Extend4-1LE8-2LE2-2LE22-1LE7-1LE2-1LE5-1Extend2LE1Extend7-2",
   "Extend2-2Extend3-2LE1-6Extend1-5LE5Extend2-2Extend7-3Extend5-11LE10-1LE1-2LE1-1LE38-1LE1",
   "Extend9-1Extend1-2Extend1-1Extend4-1Extend5LE1Extend1LE1-13Extend2-29LE53Extend18LE4-5NU10-4",
   "Extend1LE3-30LE48Extend20LE2-1LE1-8NU10-166LE47Extend7-2Extend9-23LE4Extend2-34LE48Extend17",
   "-3LE1-11NU10-38LE43Extend13LE1-7NU10-6NU20-57Extend15-4NU10-198LE44Extend15-101LE64NU10-21",
   "LE8-2LE1-2LE8-1LE2-1LE24Extend6-1Extend2-2Extend4LE1Extend1LE1Extend2-12NU10-70LE8-2LE39",
   "Extend7-2Extend7LE1-1LE1Extend1-27LE1Extend10LE40Extend7LE1Extend4-8Extend1-8LE1Extend11LE46",
   "Extend16-3LE1-18LE73-199LE33-15NU10-6LE9-1LE37Extend8-1Extend8LE1-15NU10-24LE30-2Extend22-1",
   "Extend14-73LE7-1LE2-1LE38Extend6-3Extend1-1Extend2-1Extend7LE1Extend1-8NU10-6LE6-1LE2-1LE32",
   "Extend5-1Extend2-1Extend5LE1-7NU10-310LE19Extend4-9Extend2LE1Extend1LE13-1LE34Extend7-3",
   "Extend5-13NU10Extend1-85LE1-79LE922-102LE111-17LE196-2636LE97-15LE1072FO16Extend1LE6Extend15",
   "-10LE3995-5LE583-6841LE30Extend18NU10-1734LE569-7LE31-1NU10-6LE79-1NU10-6LE30-2Extend5-11",
   "LE48Extend7-9LE4-12NU10-9LE21-5LE19-432LE45-3NU10-198LE64-128LE75-4Extend1LE1Extend55-7",
   "Extend4LE13-64LE2-1LE1Extend1-11Extend2-16382KA4-1KA7-1KA2-1KA1-287KA3-50KA1-14KA4-2712LE107",
   "-5LE13-3LE9-7LE10-3Extend2-1FO4-4172NU10-518Extend46-2Extend23-542Extend5-3Extend6FO8Extend8",
   "-2Extend7-30Extend4-148Extend3-443LE85-1LE71-1LE2-2LE1-2LE2-2LE4-1LE12-1LE1-1LE7-1LE65-1LE4",
   "-2LE8-1LE7-1LE28-1LE4-1LE5-1LE1-3LE7-1LE340-2LE25-1LE25-1LE31-1LE25-1LE31-1LE25-1LE31-1LE25",
   "-1LE31-1LE25-1LE8-2NU50-512Extend55-4Extend50-8Extend1-14Extend1-22Extend5-1Extend15-1104",
   "LE31-6LE6-213Extend7-1Extend17-2Extend7-1Extend2-1Extend5-5LE62-33Extend1-112LE45-3Extend7",
   "LE7-2NU10-4LE1-321LE30Extend1-17LE44Extend4NU10-470LE28Extend4NU10-214LE30Extend2LE1NU10-485",
   "LE7-1LE4-1LE2-1LE15-1LE197-11Extend7-41LE68Extend7LE1-4NU10-1190LE4-1LE27-1LE2-1LE1-2LE1-1",
   "LE10-1LE4-1LE1-1LE1-6LE1-4LE1-1LE1-1LE1-1LE3-1LE2-1LE1-2LE1-1LE1-1LE1-1LE1-1LE1-1LE2-1LE1-2",
   "LE4-1LE7-1LE4-1LE4-1LE1-1LE10-1LE17-5LE3-1LE5-1LE17-628LE26-6LE26-6LE26-92RI26-507Extend5",
   "-2032NU10-787463FO1-30Extend96-128Extend240-196112"]

/-- The role in sentences. -/
def sentenceRuns : Runs := .read
  ["-9SP1LF1SP2CR1-18SP1ST1CL1-4CL3-2SC2AT1-1NU10SC2-3ST1-1UP26CL1-1CL1-3LO26CL1-1CL1-7SE1-26SP1",
   "-9LO1CL1-1FO1-7LO1-4LO1CL1-4UP23-1UP7LO24-1LO8UP1LO1UP1LO1UP1LO1UP1LO1UP1LO1UP1LO1UP1LO1UP1",
   "LO1UP1LO1UP1LO1UP1LO1UP1LO1UP1LO1UP1LO1UP1LO1UP1LO1UP1LO1UP1LO1UP1LO1UP1LO1UP1LO1UP1LO1UP1",
   "LO1UP1LO1UP1LO1UP1LO1UP1LO1UP1LO2UP1LO1UP1LO1UP1LO1UP1LO1UP1LO1UP1LO1UP1LO1UP1LO2UP1LO1UP1",
   "LO1UP1LO1UP1LO1UP1LO1UP1LO1UP1LO1UP1LO1UP1LO1UP1LO1UP1LO1UP1LO1UP1LO1UP1LO1UP1LO1UP1LO1UP1",
   "LO1UP1LO1UP1LO1UP1LO1UP1LO1UP1LO1UP1LO1UP2LO1UP1LO1UP1LO3UP2LO1UP1LO1UP2LO1UP3LO2UP4LO1UP2",
   "LO1UP3LO3UP2LO1UP2LO1UP1LO1UP1LO1UP2LO1UP1LO2UP1LO1UP2LO1UP3LO1UP1LO1UP2LO2LE1UP1LO3LE4UP2",
   "LO1UP2LO1UP2LO1UP1LO1UP1LO1UP1LO1UP1LO1UP1LO1UP1LO1UP1LO1UP1LO2UP1LO1UP1LO1UP1LO1UP1LO1UP1",
   "LO1UP1LO1UP1LO1UP1LO1UP1LO2UP2LO1UP1LO1UP3LO1UP1LO1UP1LO1UP1LO1UP1LO1UP1LO1UP1LO1UP1LO1UP1",
   "LO1UP1LO1UP1LO1UP1LO1UP1LO1UP1LO1UP1LO1UP1LO1UP1LO1UP1LO1UP1LO1UP1LO1UP1LO1UP1LO1UP1LO1UP1",
   "LO1UP1LO1UP1LO1UP1LO1UP1LO1UP1LO1UP1LO7UP2LO1UP2LO2UP1LO1UP4LO1UP1LO1UP1LO1UP1LO1UP1LO69LE1",
   "LO36LE7LO2-4LE12-14LO5-7LE1-1LE1-17EX112UP1LO1UP1LO1LE1-1UP1LO1-2LO4SC1UP1-6UP1-1UP3-1UP1-1",
   "UP2LO1UP17-1UP9LO35UP1LO2UP3LO3UP1LO1UP1LO1UP1LO1UP1LO1UP1LO1UP1LO1UP1LO1UP1LO1UP1LO1UP1LO1",
   "UP1LO1UP1LO5UP1LO1-1UP1LO1UP2LO2UP51LO48UP1LO1UP1LO1UP1LO1UP1LO1UP1LO1UP1LO1UP1LO1UP1LO1UP1",
   "LO1UP1LO1UP1LO1UP1LO1UP1LO1UP1LO1UP1LO1UP1LO1UP1LO1-1EX7UP1LO1UP1LO1UP1LO1UP1LO1UP1LO1UP1LO1",
   "UP1LO1UP1LO1UP1LO1UP1LO1UP1LO1UP1LO1UP1LO1UP1LO1UP1LO1UP1LO1UP1LO1UP1LO1UP1LO1UP1LO1UP1LO1",
   "UP1LO1UP1LO1UP1LO1UP1LO1UP1LO1UP1LO1UP2LO1UP1LO1UP1LO1UP1LO1UP1LO1UP1LO1UP1LO2UP1LO1UP1LO1",
   "UP1LO1UP1LO1UP1LO1UP1LO1UP1LO1UP1LO1UP1LO1UP1LO1UP1LO1UP1LO1UP1LO1UP1LO1UP1LO1UP1LO1UP1LO1",
   "UP1LO1UP1LO1UP1LO1UP1LO1UP1LO1UP1LO1UP1LO1UP1LO1UP1LO1UP1LO1UP1LO1UP1LO1UP1LO1UP1LO1UP1LO1",
   "UP1LO1UP1LO1UP1LO1UP1LO1UP1LO1UP1LO1UP1LO1UP1LO1UP1LO1UP1LO1UP1LO1UP1LO1UP1LO1UP1LO1UP1LO1",
   "UP1LO1-1UP38-2LE1-3SC1-2LO41ST1-7EX45-1EX1-1EX2-1EX2-1EX1-8LE27-4LE5-12NU6-6SC2-2EX11-1FO1",
   "ST3LE43EX21NU10-1NU2-1LE2EX1LE99ST1LE1EX7NU1-1EX6LE2EX2-1EX4LE2NU10LE3-2LE1ST3-12FO1LE1EX1",
   "LE30EX27-2LE89EX11LE1-14NU10LE33EX9LE2-2SC1ST1LE1-2EX1-2LE22EX4LE1EX9LE1EX3LE1EX5-9ST1-1ST1",
   "-3ST2-1LE25EX3-4LE11-5LE24-1LE6-1NU2-5EX9LE42EX24NU1EX33LE54EX3LE1EX18LE1EX7LE10EX2ST2NU10-1",
   "LE16EX3-1LE8-2LE2-2LE22-1LE7-1LE1-3LE4-2EX1LE1EX7-2EX2-2EX3LE1-8EX1-4LE2-1LE3EX2-2NU10LE2-10",
   "LE1-1EX1-2EX3-1LE6-4LE2-2LE22-1LE7-1LE2-1LE2-1LE2-2EX1-1EX5-4EX2-2EX3-3EX1-7LE4-1LE1-7NU10",
   "EX2LE3EX1-11EX3-1LE9-1LE3-1LE22-1LE7-1LE2-1LE5-2EX1LE1EX8-1EX3-1EX3-2LE1-15LE2EX2-2NU10-9LE1",
   "EX6-1EX3-1LE8-2LE2-2LE22-1LE7-1LE2-1LE5-2EX1LE1EX7-2EX2-2EX3-7EX3-4LE2-1LE3EX2-2NU10-1LE1-16",
   "EX1LE1-1LE6-3LE3-1LE4-3LE2-1LE1-1LE2-3LE2-3LE3-3LE12-4EX5-3EX3-1EX4-2LE1-6EX1-14NU10-16EX5",
   "LE8-1LE3-1LE23-1LE16-2EX1LE1EX7-1EX3-1EX4-7EX2-1LE3-2LE1-2LE2EX2-2NU10-16LE1EX3-1LE8-1LE3-1",
   "LE23-1LE10-1LE5-2EX1LE1EX7-1EX3-1EX4-7EX2-6LE2-1LE2EX2-2NU10-1LE2EX1-12EX4LE9-1LE3-1LE41EX2",
   "LE1EX7-1EX3-1EX4LE1-5LE3EX1-7LE3EX2-2NU10-10LE6-1EX3-1LE18-3LE24-1LE9-1LE1-2LE7-3EX1-4EX6-1",
   "EX1-1EX8-6NU10-2EX2-13LE48EX1LE2EX7-5LE7EX8-1NU10-39LE2-1LE1-1LE5-1LE24-1LE1-1LE10EX1LE2EX9",
   "LE1-2LE5-1LE1-1EX7-1NU10-2LE4-32LE1-23EX2-6NU10-11EX1-1EX1-1EX1CL4EX2LE8-1LE36-4EX20-1EX2LE5",
   "EX11-1EX36-9EX1-57LE43EX20LE1NU10ST2-4LE6EX4LE4EX3LE1EX3LE2EX7LE3EX4LE13EX12LE1EX1NU10EX4-2",
   "UP38-1UP1-5UP1-2LE43-1LO1LE332-1LE4-2LE7-1LE1-1LE4-2LE41-1LE4-2LE33-1LE4-2LE7-1LE1-1LE4-2",
   "LE15-1LE57-1LE4-2LE67-2EX3-2ST1-4ST2-23LE16-16UP86-2LO6-3LE620-1ST1LE17SP1LE26CL2-3LE75-3",
   "LE11-7LE18EX4-9LE19EX3ST2-9LE18EX2-12LE13-1LE3-1EX2-12LE52EX32ST2-1LE1-4LE1EX1-2NU10-24SC1",
   "ST1-4SC1ST1-1EX3FO1EX1NU10-6LE89-7LE5EX2LE34EX1LE1-5LE70-10LE31-1EX12-4EX12-8ST2NU10LE30-2",
   "LE5-11LE44-4LE26-6NU11-37LE23EX5-4LE53EX10-1EX29-2EX1NU10-6NU10-13LE1ST4-4EX31-49EX5LE47EX17",
   "LE8-1ST2NU10ST2-2ST2-11EX9-9ST3EX3LE30EX13LE2NU10LE44EX14-12LE36EX20-3ST2-3NU10-3LE3NU10LE36",
   "ST2LO9UP1LO1-5LE43-2LE3-16EX3-1EX21LE4EX1LE6EX1LE2EX3LE1-5LO192EX64UP1LO1UP1LO1UP1LO1UP1LO1",
   "UP1LO1UP1LO1UP1LO1UP1LO1UP1LO1UP1LO1UP1LO1UP1LO1UP1LO1UP1LO1UP1LO1UP1LO1UP1LO1UP1LO1UP1LO1",
   "UP1LO1UP1LO1UP1LO1UP1LO1UP1LO1UP1LO1UP1LO1UP1LO1UP1LO1UP1LO1UP1LO1UP1LO1UP1LO1UP1LO1UP1LO1",
   "UP1LO1UP1LO1UP1LO1UP1LO1UP1LO1UP1LO1UP1LO1UP1LO1UP1LO1UP1LO1UP1LO1UP1LO1UP1LO1UP1LO1UP1LO1",
   "UP1LO1UP1LO1UP1LO1UP1LO1UP1LO1UP1LO1UP1LO1UP1LO1UP1LO1UP1LO1UP1LO1UP1LO1UP1LO1UP1LO1UP1LO1",
   "UP1LO1UP1LO1UP1LO1UP1LO1UP1LO1UP1LO1UP1LO1UP1LO1UP1LO1UP1LO1UP1LO9UP1LO1UP1LO1UP1LO1UP1LO1",
   "UP1LO1UP1LO1UP1LO1UP1LO1UP1LO1UP1LO1UP1LO1UP1LO1UP1LO1UP1LO1UP1LO1UP1LO1UP1LO1UP1LO1UP1LO1",
   "UP1LO1UP1LO1UP1LO1UP1LO1UP1LO1UP1LO1UP1LO1UP1LO1UP1LO1UP1LO1UP1LO1UP1LO1UP1LO1UP1LO1UP1LO1",
   "UP1LO1UP1LO1UP1LO1UP1LO1UP1LO1UP1LO1UP1LO1UP1LO1UP1LO1UP1LO1UP1LO1UP1LO1UP1LO1UP1LO1UP1LO9",
   "UP8LO6-2UP6-2LO8UP8LO8UP8LO6-2UP6-2LO8-1UP1-1UP1-1UP1-1UP1LO8UP8LO14-2LO8UP8LO8UP8LO8UP8LO5",
   "-1LO2UP5-1LO1-3LO3-1LO2UP5-3LO4-2LO2UP4-4LO8UP5-5LO3-1LO2UP5-3SP11FO1EX2FO2-3SC2-3CL8-4AT1-3",
   "SE2FO5SP1-9CL2-1ST2-7CL2ST3-21SP1FO5-1FO10-1LO1-11CL2LO1-13CL2-1LO13-51EX33-17UP1-4UP1-2LO1",
   "UP3LO2UP3LO1-1UP1-3UP5-6UP1-1UP1-1UP1-1UP4-1LO1UP4LO1LE4LO1-2LO2UP2-5UP1LO4-4LO1-17UP16LO16",
   "LE3UP1LO1LE4-383CL4-29CL2-395UP26LO26-625CL6-7CL14-79CL2-31CL10-403CL22-63CL4-32CL2-514UP48",
   "LO48UP1LO1UP3LO2UP1LO1UP1LO1UP1LO1UP4LO1UP1LO2UP1LO8UP3LO1UP1LO1UP1LO1UP1LO1UP1LO1UP1LO1UP1",
   "LO1UP1LO1UP1LO1UP1LO1UP1LO1UP1LO1UP1LO1UP1LO1UP1LO1UP1LO1UP1LO1UP1LO1UP1LO1UP1LO1UP1LO1UP1",
   "LO1UP1LO1UP1LO1UP1LO1UP1LO1UP1LO1UP1LO1UP1LO1UP1LO1UP1LO1UP1LO1UP1LO1UP1LO1UP1LO1UP1LO1UP1",
   "LO1UP1LO1UP1LO1UP1LO1UP1LO1UP1LO1UP1LO1UP1LO1UP1LO1UP1LO1UP1LO1UP1LO1UP1LO1UP1LO2-6UP1LO1UP1",
   "LO1EX3UP1LO1-5ST3-4LO38-1LO1-5LO1-2LE56-7LE1-15EX1LE23-9LE7-1LE7-1LE7-1LE7-1LE7-1LE7-1LE7-1",
   "LE7-1EX32CL14-14CL2-2CL10-4ST1LE1-12ST1-5CL1-16ST2CL8-419SP1SC1ST1-2LE3CL10-2CL8-1CL3-1LE9",
   "EX6-1LE5-2LE5-4LE86-2EX2-2LE3-1LE90-1LE4-5LE43-1LE94-17LE32-48LE16-512LE6592-64LE22157-67",
   "LE46-1ST1LE269-1ST2LE16NU10LE2-20UP1LO1UP1LO1UP1LO1UP1LO1UP1LO1UP1LO1UP1LO1UP1LO1UP1LO1UP1",
   "LO1UP1LO1UP1LO1UP1LO1UP1LO1UP1LO1UP1LO1UP1LO1UP1LO1UP1LO1UP1LO1UP1LO1UP1LO1UP1LO1LE1EX4-1",
   "EX10-1LE1UP1LO1UP1LO1UP1LO1UP1LO1UP1LO1UP1LO1UP1LO1UP1LO1UP1LO1UP1LO1UP1LO1UP1LO1UP1LO1UP1",
   "LO3EX2LE80EX2-1ST1-3ST1-31LE9-2UP1LO1UP1LO1UP1LO1UP1LO1UP1LO1UP1LO1UP1LO3UP1LO1UP1LO1UP1LO1",
   "UP1LO1UP1LO1UP1LO1UP1LO1UP1LO1UP1LO1UP1LO1UP1LO1UP1LO1UP1LO1UP1LO1UP1LO1UP1LO1UP1LO1UP1LO1",
   "UP1LO1UP1LO1UP1LO1UP1LO1UP1LO1UP1LO1UP1LO1UP1LO1UP1LO1UP1LO1UP1LO1UP1LO1UP1LO10UP1LO1UP1LO1",
   "UP2LO1UP1LO1UP1LO1UP1LO1UP1LO1LE1-2UP1LO1UP1LO1LE1UP1LO1UP1LO3UP1LO1UP1LO1UP1LO1UP1LO1UP1LO1",
   "UP1LO1UP1LO1UP1LO1UP1LO1UP1LO1UP5LO1UP5LO1UP1LO1UP1LO1UP1LO1UP1LO1UP1LO1UP1LO1UP1LO1UP4LO1",
   "UP1LO1UP2LO1-2UP1LO1-1LO1-1LO1UP1LO1UP1LO1UP1LO1UP1-21LO3UP1LO1LE1LO3LE7EX1LE3EX1LE4EX1LE23",
   "EX5-4EX1-19LE52-2ST2-8EX2LE50EX18-8ST2NU10-6EX18LE6-3LE1-1LE2EX1NU10LE28EX8-1ST1LE23EX13-12",
   "LE29-3EX4LE47EX14-7ST2-5LE1NU10-6LE5EX1LE10NU10LE5-1LE41EX14-9LE3EX1LE8EX2-2NU10-3ST3LE23-3",
   "LE1EX3LE50EX1LE1EX3LE2EX2LE5EX2LE1EX1LE1-24LE3-2LE11EX5ST2LE3EX2-10LE6-2LE6-2LE6-9LE7-1LE7-1",
   "LO43-1LO14-6LO80LE35EX8ST1EX2-2NU10-6LE11172-12LE23-4LE49-8452LE366-2LE106-38LO7-12LO5-5LE1",
   "EX1LE10-1LE13-1LE5-1LE1-1LE2-1LE2-1LE108-33LE363CL2-16LE64-2LE54-40LE12-4EX16SC2ST1SC2ST2CL2",
   "-7EX16-1SC2-2CL16-2CL2-7SC2AT1-1SC2ST2SC1CL6-4SC1-12LE5-1LE135-2FO1-1ST1-6CL2-2SC2AT1-1NU10",
   "SC2-3ST1-1UP26CL1-1CL1-3LO26CL1-1CL1-1CL2ST1CL2SC1-1LE56EX2LE31-3LE6-2LE6-2LE6-2LE3-28FO3-4",
   "LE12-1LE26-1LE19-1LE2-1LE15-2LE14-34LE123-69LE53-136EX1-130LE29-3LE49-15EX1-31LE32-13LE30-5",
   "LE38EX5-5LE30-2LE36-4LE8-1LE5-42UP40LO40LE78-2NU10-6UP36-4LO36-4LE40-8LE52-12UP11-1UP15-1UP7",
   "-1UP2-1LO11-1LO15-1LO7-1LO2-3LE52-12LE311-9LE22-10LE8-24LO1LE2LO3-1LO42-1LO9-69LE6-2LE1-1",
   "LE44-1LE2-3LE1-2LE23-10LE23-9LE31-65LE19-1LE2-10LE22-10LE26-70LE56-6LE2-64LE1EX3-1EX2-5EX4",
   "LE4-1LE3-1LE29-2EX3-4EX1-22ST2-8LE29-3LE29-35LE8-1LE28EX2-25LE54-10LE22-10LE19-13LE18-110",
   "LE73-55UP51-13LO51-13LE36EX4-8NU10-6NU10LE6UP22-3EX5-1LE1LO22-250LE42-1EX2-3LE2-16LE3-55EX4",
   "LE29-10LE1-8LE22EX11-4ST5-22LE18EX4ST4-38LE21-27LE23-9EX3LE53EX15ST2-29NU10EX1LE2EX2LE1-9EX4",
   "LE45EX11-2NU1ST4EX1-10NU1-2LE25-7NU10-6EX3LE36EX14-1NU10-1ST3LE1EX2LE1-8LE35EX1-2LE1-9EX3",
   "LE48EX14LE4ST2-2EX4ST1EX2NU10LE1-1LE1-1ST2-32LE18-1LE25EX12ST2-1ST2-1EX1LE2EX1-62LE7-1LE1-1",
   "LE4-1LE15-1LE10ST1-6LE47EX12-5NU10-6EX4-1LE8-2LE2-2LE22-1LE7-1LE2-1LE5-1EX2LE1EX7-2EX2-2EX3",
   "-2LE1-6EX1-5LE5EX2-2EX7-3EX5-11LE10-1LE1-2LE1-1LE38-1LE1EX9-1EX1-2EX1-1EX4-1EX5LE1EX1LE1ST2",
   "-11EX2-29LE53EX18LE4ST2-3NU10-4EX1LE3-30LE48EX20LE2-1LE1-8NU10-166LE47EX7-2EX9-1ST2-5ST15LE4",
   "EX2-34LE48EX17ST2-1LE1-11NU10-38LE43EX13LE1-7NU10-6NU20-28LE27-2EX15-4NU10-2ST3-1LE7-185LE44",
   "EX15-101UP32LO32NU10-21LE8-2LE1-2LE8-1LE2-1LE24EX6-1EX2-2EX4LE1EX1LE1EX2ST1-1ST1-9NU10-70LE8",
   "-2LE39EX7-2EX7LE1-1LE1EX1-27LE1EX10LE40EX7LE1EX4-3ST2-3EX1-8LE1EX11LE46EX16-1ST2LE1-18LE73",
   "-199LE33-15NU10-6LE9-1LE37EX8-1EX8LE1ST2-13NU10-24LE30-2EX22-1EX14-73LE7-1LE2-1LE38EX6-3EX1",
   "-1EX2-1EX7LE1EX1-8NU10-6LE6-1LE2-1LE32EX5-1EX2-1EX5LE1-7NU10-310LE19EX4ST2-7EX2LE1EX1LE13-1",
   "LE34EX7-3EX5ST2-11NU10EX1-85LE1-79LE922-102LE111-17LE196-2636LE97-15LE1072FO16EX1LE6EX15-10",
   "LE3995-5LE583-6841LE30EX18NU10-1734LE569-7LE31-1NU10-4ST2LE79-1NU10-6LE30-2EX5ST1-10LE48EX7",
   "ST2-7LE4ST1-11NU10-9LE21-5LE19-432LE45-1ST2NU10-198UP32LO32-24ST1-103LE75-4EX1LE1EX55-7EX4",
   "LE13-64LE2-1LE1EX1-11EX2-14LE6136-8LE1238-41LE10-8935LE4-1LE7-1LE2-1LE291-15LE1-29LE3-2LE1",
   "-14LE4-8LE396-2308LE107-5LE13-3LE9-7LE10-3EX2ST1FO4-4172NU10-518EX46-2EX23-542EX5-3EX6FO8EX8",
   "-2EX7-30EX4-148EX3-443UP26LO26UP26LO7-1LO18UP26LO26UP1-1UP2-2UP1-2UP2-2UP4-1UP8LO4-1LO1-1LO7",
   "-1LO11UP26LO26UP2-1UP4-2UP8-1UP7-1LO26UP2-1UP4-1UP5-1UP1-3UP7-1LO26UP26LO26UP26LO26UP26LO26",
   "UP26LO26UP26LO26UP26LO28-2UP25-1LO25-1LO6UP25-1LO25-1LO6UP25-1LO25-1LO6UP25-1LO25-1LO6UP25-1",
   "LO25-1LO6UP1LO1-2NU50-512EX55-4EX50-8EX1-14EX1-3ST1-18EX5-1EX15-1104LO10LE1LO20-6LO6-213EX7",
   "-1EX17-2EX7-1EX2-1EX5-5LO62-33EX1-112LE45-3EX7LE7-2NU10-4LE1-321LE30EX1-17LE44EX4NU10-470",
   "LE28EX4NU10-214LE30EX2LE1NU10-485LE7-1LE4-1LE2-1LE15-1LE197-11EX7-41UP34LO34EX7LE1-4NU10",
   "-1190LE4-1LE27-1LE2-1LE1-2LE1-1LE10-1LE4-1LE1-1LE1-6LE1-4LE1-1LE1-1LE1-1LE3-1LE2-1LE1-2LE1-1",
   "LE1-1LE1-1LE1-1LE1-1LE2-1LE1-2LE4-1LE7-1LE4-1LE4-1LE1-1LE10-1LE17-5LE3-1LE5-1LE17-628UP26-6",
   "UP26-6UP26-1260CL3-1399NU10-1030LE42720-32LE4154-6LE222-2LE5762-14LE7473-15LE622-2466LE542",
   "-1506LE4939-5LE4192-711761FO1-30EX96-128EX240-196112"]

namespace Segment

/-- The code points of a role, which a table names under its label. -/
def named? (runs : Runs) (names : List (String × List String)) (name : String) : Option Ranges :=
  (names.find? fun (_, spellings) => spellings.contains name).map fun (label, _) =>
    runs.select (· = label)

def clusterNames : List (String × List String) :=
  [("CN", ["cn", "control"]), ("CR", ["cr"]), ("EX", ["ex", "extend"]), ("L", ["l"]),
   ("LF", ["lf"]), ("LV", ["lv"]), ("LVT", ["lvt"]), ("PP", ["pp", "prepend"]),
   ("RI", ["ri", "regionalindicator"]), ("SM", ["sm", "spacingmark"]), ("T", ["t"]), ("V", ["v"]),
   ("ZWJ", ["zwj"])]

def wordNames : List (String × List String) :=
  [("CR", ["cr"]), ("DQ", ["dq", "doublequote"]), ("EX", ["ex", "extendnumlet"]),
   ("Extend", ["extend"]), ("FO", ["fo", "format"]), ("HL", ["hl", "hebrewletter"]),
   ("KA", ["ka", "katakana"]), ("LE", ["le", "aletter"]), ("LF", ["lf"]),
   ("MB", ["mb", "midnumlet"]), ("ML", ["ml", "midletter"]), ("MN", ["mn", "midnum"]),
   ("NL", ["nl", "newline"]), ("NU", ["nu", "numeric"]), ("RI", ["ri", "regionalindicator"]),
   ("SQ", ["sq", "singlequote"]), ("Wsegspace", ["wsegspace"]), ("ZWJ", ["zwj"])]

def sentenceNames : List (String × List String) :=
  [("AT", ["at", "aterm"]), ("CL", ["cl", "close"]), ("CR", ["cr"]), ("EX", ["ex", "extend"]),
   ("FO", ["fo", "format"]), ("LE", ["le", "oletter"]), ("LF", ["lf"]), ("LO", ["lo", "lower"]),
   ("NU", ["nu", "numeric"]), ("SC", ["sc", "scontinue"]), ("SE", ["se", "sep"]), ("SP", ["sp"]),
   ("ST", ["st", "sterm"]), ("UP", ["up", "upper"])]

def cluster? (name : String) : Option Ranges := named? clusterRuns clusterNames name
def word? (name : String) : Option Ranges := named? wordBreakRuns wordNames name
def sentence? (name : String) : Option Ranges := named? sentenceRuns sentenceNames name

end Segment
end ShaderPrep.Unicode
