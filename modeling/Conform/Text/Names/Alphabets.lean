/-!
# Names of characters 0 to 1FFF

The names from the beginning of the character set to the end of the extended Greek letters,
in the written form that `CharacterName.search` reads.
-/

namespace Conform

/-- The names of the characters 0 to 1FFF. -/
def alphabetNames : String := "
z20aSPACEaEXCLAMATI@_M+KaQUOTATI@_M+KaNUMB,>IGNaDOLL+>IGNaP,C~T>IGNaAMP,S=DbPOSTROPHEa|FT_P+~THESIS
aR._P+~THESISaAST,ISKaPLUS>IGNaCOMMAaHYPH~-M:USaFULL>TOPaSOLIDUSaDIGIT_Z,Og@EgTWOhHREEgFOURhIVEgSIX
hEV~gE.gN:EaCOL@aSEMICOL@a|SS-TH=>IGNaEQU&S>IGNaGREAT,-TH=>IGNaQUESTI@_M+KaCOMM,CI&_ATaLAT:_%!AvBvC
vDvEvFvGvHvIvJvKvLvMvNvOvPvQvRvSvTvUvVvWvXvYvZbEFT>QU+;BRACKETaREV,S;SOLIDUSb.>QU+;BRACKET
aCIRCUMF|X_ACC~TaLOW_L:EaGRAV;ACC~TaLAT:>M&!AtBtCtDtEtFtGtHtItJtKtLtMtNtOtPtQtRtStTtUtVtWtXtYtZ
bEFT_CURLY_BRACKETaV,TIC&_L:EaR._CURLY_BRACKETaTILDEzA0aNO-BREAK>PACEa:V,TE^EXCLAMATI@_M+KaC~T>IGN
aPOUND>IGNaCURR~CY>IGNaY~>IGNaBROK~_B+aSECTI@>IGNaDIA,ESISaCOPYR.>IGNaFEM::;ORD:&_:DICATOR
a|FT-PO:T:G_DOUBL;=GL;QUOTATI@_M+KaNOT>IGNaSOFT_HYPH~aREGIST,ED>IGNaMACR@aDEGRE;SIGNaPLUS-M:US>IGN
aSUP,SCRIPT_TWOnHREEaACUT;ACC~TaMICRO>IGNaPILCROW>IGNaMIDDL;DOTaCEDILLAaSUP,SCRIPT_@E
aMASCUL:;ORD:&_:DICATORaR.-PO:T:G_DOUBL;=GL;QUOTATI@_M+KaVULG+_FRACTI@_@;QU+T,uH&FqTHRE;QU+T,S
a:V,TE^QUESTI@_M+KaLAT:_%!A$GRAVEyITH_ACUTEyITH_CIRCUMF|XyITH_TILDEyITH_DIA,ESISyITH_R:G_ABOVEwE
vC$CEDILLAvE$GRAVEyITH_ACUTEyITH_CIRCUMF|XyITH_DIA,ESISvI$GRAVEyITH_ACUTEyITH_CIRCUMF|XyITH_DIA,ESIS
vETHvN$TILDEvO$GRAVEyITH_ACUTEyITH_CIRCUMF|XyITH_TILDEyITH_DIA,ESISaMULTIPLICATI@>IGN
aLAT:_%!O$STROKEvU$GRAVEyITH_ACUTEyITH_CIRCUMF|XyITH_DIA,ESISvY$ACUTEvTHORNgSM&!SH+P>tA$GRAVE
yH_ACUTEyH_CIRCUMF|XyH_TILDEyH_DIA,ESISyH_R:G_ABOVEuEtC$CEDILLAtE$GRAVEyH_ACUTEyH_CIRCUMF|X
yH_DIA,ESIStI$GRAVEyH_ACUTEyH_CIRCUMF|XyH_DIA,ESIStETHtN$TILDEtO$GRAVEyH_ACUTEyH_CIRCUMF|XyH_TILDE
yH_DIA,ESISaDIVISI@>IGNaLAT:>M&!O$STROKEtU$GRAVEyH_ACUTEyH_CIRCUMF|XyH_DIA,ESIStY$ACUTEtTHORN
tY$DIA,ESISg%!A$MACR@gSM&!A$MACR@g%!A$BREVEgSM&!A$BREVEg%!A$OG@EKgSM&!A$OG@EKg%!C$ACUTEgSM&!C$ACUTE
g%!C$CIRCUMF|XgSM&!C$CIRCUMF|Xg%!C$DOT_ABOVEgSM&!C$DOT_ABOVEg%!C$C+@gSM&!C$C+@g%!D$C+@gSM&!D$C+@
g%!D$STROKEgSM&!D$STROKEg%!E$MACR@gSM&!E$MACR@g%!E$BREVEgSM&!E$BREVEg%!E$DOT_ABOVEgSM&!E$DOT_ABOVE
g%!E$OG@EKgSM&!E$OG@EKg%!E$C+@gSM&!E$C+@g%!G$CIRCUMF|XgSM&!G$CIRCUMF|Xg%!G$BREVEgSM&!G$BREVE
g%!G$DOT_ABOVEgSM&!G$DOT_ABOVEg%!G$CEDILLAgSM&!G$CEDILLAg%!H$CIRCUMF|XgSM&!H$CIRCUMF|Xg%!H$STROKE
gSM&!H$STROKEg%!I$TILDEgSM&!I$TILDEg%!I$MACR@gSM&!I$MACR@g%!I$BREVEgSM&!I$BREVEg%!I$OG@EK
gSM&!I$OG@EKg%!I$DOT_ABOVEgSM&!DOT|SS_Ig%L_LIGATUR;IJgSM&L_LIGATUR;IJg%!J$CIRCUMF|XgSM&!J$CIRCUMF|X
g%!K$CEDILLAgSM&!K$CEDILLAuRAg%!L$ACUTEgSM&!L$ACUTEg%!L$CEDILLAgSM&!L$CEDILLAg%!L$C+@gSM&!L$C+@
g%!L$MIDDL;DOTgSM&!L$MIDDL;DOTg%!L$STROKEgSM&!L$STROKEg%!N$ACUTEgSM&!N$ACUTEg%!N$CEDILLA
gSM&!N$CEDILLAg%!N$C+@gSM&!N$C+@vPRECEDE^BY_APOSTROPHEg%!~GgSM&!~Gg%!O$MACR@gSM&!O$MACR@g%!O$BREVE
gSM&!O$BREVEg%!O$DOUBL;ACUTEgSM&!O$DOUBL;ACUTEg%L_LIGATUR;OEgSM&L_LIGATUR;OEg%!R$ACUTEgSM&!R$ACUTE
g%!R$CEDILLAgSM&!R$CEDILLAg%!R$C+@gSM&!R$C+@g%!S$ACUTEgSM&!S$ACUTEg%!S$CIRCUMF|XgSM&!S$CIRCUMF|X
g%!S$CEDILLAgSM&!S$CEDILLAg%!S$C+@gSM&!S$C+@g%!T$CEDILLAgSM&!T$CEDILLAg%!T$C+@gSM&!T$C+@g%!T$STROKE
gSM&!T$STROKEg%!U$TILDEgSM&!U$TILDEg%!U$MACR@gSM&!U$MACR@g%!U$BREVEgSM&!U$BREVEg%!U$R:G_ABOVE
gSM&!U$R:G_ABOVEg%!U$DOUBL;ACUTEgSM&!U$DOUBL;ACUTEg%!U$OG@EKgSM&!U$OG@EKg%!W$CIRCUMF|X
gSM&!W$CIRCUMF|Xg%!Y$CIRCUMF|XgSM&!Y$CIRCUMF|Xg%!Y$DIA,ESISvZ$ACUTEgSM&!Z$ACUTEg%!Z$DOT_ABOVE
gSM&!Z$DOT_ABOVEg%!Z$C+@gSM&!Z$C+@tL@G>tB$STROKEg%!B$HOOKyITH_TOPB+gSM&!B$TOPB+g%!T@;SIXgSM&!T@;SIX
g%!OP~_OvC$HOOKgSM&!C$HOOKg%!AFRIC=_DvD$HOOKyITH_TOPB+gSM&!D$TOPB+tTURNE^DELTAg%!REV,SE^EvSCHWA
vOP~_EvF$HOOKgSM&!F$HOOKg%!G$HOOKwAMMAgSM&!HVg%!IOTAw$STROKEvK$HOOKgSM&!K$HOOKtL$B+uAMBDA$STROKE
g%!TURNE^MvN$|FT_HOOKgSM&!N$L@G_R._|Gg%!O$MIDDL;TILDEyITH_HORNgSM&!O$HORNg%!OIgSM&!OIg%!P$HOOK
gSM&!P$HOOKg|TT,_YRg%!T@;TWOgSM&!T@;TWOg%!ESHg|TT,_REV,SE^ESH_LOOPgSM&!T$P&AT&_HOOKg%!T$HOOK
gSM&!T$HOOKg%!T$RETROF|X_HOOKvU$HORNgSM&!U$HORNg%!UPSIL@vV$HOOKvY$HOOKgSM&!Y$HOOKg%!Z$STROKE
gSM&!Z$STROKEg%!EZHy_REV,SEDgSM&!EZH_REV,SEDxWITH_TAILg|TT,_TWO$STROKEg%!T@;FIVEgSM&!T@;FIVE
g|TT,_:V,TE^GLOTT&>TOP$STROKEnWYNNnD~T&_CLICKnLAT,&_CLICKn&VEOL+_CLICKnRETROF|X_CLICKg%!DZ$C+@
w$SM&!Z$C+@gSM&!DZ$C+@g%!LJw$SM&!JgSM&!LJg%!NJw$SM&!JgSM&!NJg%!A$C+@gSM&!A$C+@g%!I$C+@gSM&!I$C+@
g%!O$C+@gSM&!O$C+@g%!U$C+@gSM&!U$C+@g%!U$DIA,ESIS_=^MACR@gSM&!U$DIA,ESIS_=^MACR@
g%!U$DIA,ESIS_=^ACUTEgSM&!U$DIA,ESIS_=^ACUTEg%!U$DIA,ESIS_=^C+@gSM&!U$DIA,ESIS_=^C+@
g%!U$DIA,ESIS_=^GRAVEgSM&!U$DIA,ESIS_=^GRAVEtTURNE^Eg%!A$DIA,ESIS_=^MACR@gSM&!A$DIA,ESIS_=^MACR@
g%!A$DOT_ABOV;=^MACR@gSM&!A$DOT_ABOV;=^MACR@g%!AE$MACR@gSM&!AE$MACR@g%!G$STROKEgSM&!G$STROKEg%!G$C+@
gSM&!G$C+@g%!K$C+@gSM&!K$C+@g%!O$OG@EKgSM&!O$OG@EKg%!O$OG@EK_=^MACR@gSM&!O$OG@EK_=^MACR@g%!EZH$C+@
gSM&!EZH$C+@tJ$C+@g%!DZw$SM&!ZgSM&!DZg%!G$ACUTEgSM&!G$ACUTEg%!HWAIRvWYNNvN$GRAVEgSM&!N$GRAVE
g%!A$R:G_ABOV;=^ACUTEgSM&!A$R:G_ABOV;=^ACUTEg%!AE$ACUTEgSM&!AE$ACUTEg%!O$STROK;=^ACUTE
gSM&!O$STROK;=^ACUTEg%!A$DOUBL;GRAVEgSM&!A$DOUBL;GRAVEg%!A$:V,TE^BREVEgSM&!A$:V,TE^BREVE
g%!E$DOUBL;GRAVEgSM&!E$DOUBL;GRAVEg%!E$:V,TE^BREVEgSM&!E$:V,TE^BREVEg%!I$DOUBL;GRAVE
gSM&!I$DOUBL;GRAVEg%!I$:V,TE^BREVEgSM&!I$:V,TE^BREVEg%!O$DOUBL;GRAVEgSM&!O$DOUBL;GRAVE
g%!O$:V,TE^BREVEgSM&!O$:V,TE^BREVEg%!R$DOUBL;GRAVEgSM&!R$DOUBL;GRAVEg%!R$:V,TE^BREVE
gSM&!R$:V,TE^BREVEg%!U$DOUBL;GRAVEgSM&!U$DOUBL;GRAVEg%!U$:V,TE^BREVEgSM&!U$:V,TE^BREVE
g%!S$COMMA_BELOWgSM&!S$COMMA_BELOWg%!T$COMMA_BELOWgSM&!T$COMMA_BELOWg%!YOGHgSM&!YOGHg%!H$C+@
gSM&!H$C+@g%!N$L@G_R._|GgSM&!D$CURLg%!OUgSM&!OUg%!Z$HOOKgSM&!Z$HOOKg%!A$DOT_ABOVEgSM&!A$DOT_ABOVE
g%!E$CEDILLAgSM&!E$CEDILLAg%!O$DIA,ESIS_=^MACR@gSM&!O$DIA,ESIS_=^MACR@g%!O$TILD;=^MACR@
gSM&!O$TILD;=^MACR@g%!O$DOT_ABOVEgSM&!O$DOT_ABOVEg%!O$DOT_ABOV;=^MACR@gSM&!O$DOT_ABOV;=^MACR@
g%!Y$MACR@gSM&!Y$MACR@tL$CURLtN$CURLtT$CURLtDOT|SS_JuB_DIGRAPHtQP_DIGRAPHg%!A$STROKEvC$STROKE
gSM&!C$STROKEg%!L$B+vT$DIAG@&>TROKEgSM&!S$SWASH_TAILtZ$SWASH_TAILg%!GLOTT&>TOPgSM&!GLOTT&>TOP
g%!B$STROKEvU_B+vTURNE^VvE$STROKEgSM&!E$STROKEg%!J$STROKEgSM&!J$STROKEg%!SM&L_Q$HOOK_TAIL
gSM&!Q$HOOK_TAILg%!R$STROKEgSM&!R$STROKEg%!Y$STROKEgSM&!Y$STROKEtTURNE^At&PHAtTURNE^&PHAtB$HOOK
tOP~_OtC$CURLtD$TAILyH_HOOKtREV,SE^EtSCHWAy$HOOKtOP~_EtREV,SE^OP~_EySE^OP~_E$HOOKtCLOSE^REV,SE^OP~_E
tDOT|SS_J$STROKEtG$HOOKtSCRIPT_Gg|TT,>M&L_%L_GgSM&!GAMMAtRAMS_HORNtTURNE^HtH$HOOKu~G$HOOKtI$STROKE
uOTAg|TT,>M&L_%L_IgSM&!L$MIDDL;TILDEyH_BELTyH_RETROF|X_HOOKuEZHtTURNE^My^M$L@G_|GtM$HOOKtN$|FT_HOOK
yH_RETROF|X_HOOKg|TT,>M&L_%L_NgSM&!B+RE^Og|TT,>M&L_%L_OEgSM&!CLOSE^OMEGAtPHItTURNE^Ry^R$L@G_|G
y^R$HOOKtR$L@G_|GyH_TAILyH_FISHHOOKuEV,SE^R$FISHHOOKg|TT,>M&L_%L_Ry&_:V,TE^RgSM&!S$HOOKtESH
tDOT|SS_J$STROK;=^HOOKtSQUAT_REV,SE^ESHtESH$CURLtTURNE^Tu$RETROF|X_HOOKtU_B+uPSIL@tV$HOOKtTURNE^Vy^W
y^Yg|TT,>M&L_%L_YgSM&!Z$RETROF|X_HOOKyH_CURLtEZHw$CURLg|TT,_GLOTT&>TOPnPH+YNGE&_VOICE^FRICATIVE
n:V,TE^GLOTT&>TOPnSTRETCHE^CnBILABI&_CLICKnSM&L_%L_BgSM&!CLOSE^OP~_Eg|TT,>M&L_%L_G$HOOKy&_H
gSM&!J$CROSSED-TAILtTURNE^Kg|TT,>M&L_%L_LgSM&!Q$HOOKg|TT,_GLOTT&>TOP$STROKEnREV,SE^GLOTT&>TOP$STROKE
gSM&!DZ_DIGRAPHuEZH_DIGRAPHuZ_DIGRAPH$CURLtTS_DIGRAPHuESH_DIGRAPHuC_DIGRAPH$CURLtF~G_DIGRAPH
tLS_DIGRAPHuZ_DIGRAPHg|TT,_BILABI&_P,CUSSIVEpD~T&_P,CUSSIVEgSM&!TURNE^H$FISHHOOKy^H$FISHHOOK_=^TAIL
aMODIFI,_|TT,>M&L_Hx$HOOKwJwRwTURNE^RyRNE^R$HOOKw%L_:V,TE^RwWwYqPRIMEqDOUBL;PRIMEqTURNE^COMMA
qAPOSTROPHEqREV,SE^COMMAr._H&F_R:Gq|FT_H&F_R:GqGLOTT&>TOPqREV,SE^GLOTT&>TOPq|FT_+ROWHEADqR._+ROWHEAD
qUP_+ROWHEADqDOWN_+ROWHEADqCIRCUMF|X_ACC~TaC+@aMODIFI,_|TT,_V,TIC&_L:EqMACR@qACUT;ACC~TqGRAV;ACC~T
qLOW_V,TIC&_L:EuMACR@uGRAV;ACC~TuACUT;ACC~TqTRI=GUL+_COL@qH&F_TRI=GUL+_COL@qC~TRE^R._H&F_R:G
y|FT_H&F_R:GqUP_TACKqDOWN_TACKqPLUS>IGNqM:US>IGNaBREVEaDOT_ABOVEaR:G_ABOVEaOG@EKaSM&L_TILDE
aDOUBL;ACUT;ACC~TaMODIFI,_|TT,_RHOTIC_HOOKqCROSS_ACC~TqSM&L_GAMMAwLwSwXwREV,SE^GLOTT&>TOP
qEXTRA-HIGH_T@;B+qHIGH_T@;B+qMI^T@;B+qLOW_T@;B+qEXTRA-LOW_T@;B+qY:_DEP+T:G_T@;M+Kr=G_DEP+T:G_T@;M+K
qVOIC:GqUNASPIRATEDqDOUBL;APOSTROPHEqLOW_DOWN_+ROWHEADuUP_+ROWHEADu|FT_+ROWHEADuR._+ROWHEADwNG
qMIDDL;GRAV;ACC~TxDOUBL;GRAV;ACC~TyOUBL;ACUT;ACC~TqLOW_TILDEqRAISE^COL@qBEG:_HIGH_T@Eq~^HIGH_T@E
qBEG:_LOW_T@Eq~^LOW_T@EqSHELFqOP~>HELFqLOW_|FT_+ROWaCOMB::G_GRAV;ACC~TkACUT;ACC~TkCIRCUMF|X_ACC~T
kTILDEkMACR@kOV,L:EkBREVEkDOT_ABOVElIA,ESISkHOOK_ABOVEkR:G_ABOVEkDOUBL;ACUT;ACC~TkC+@
kV,TIC&_L:;ABOVEkDOUBL;V,TIC&_L:;ABOVErGRAV;ACC~TkC=DRAB:DUk:V,TE^BREVEkTURNE^COMMA_ABOVE
kCOMMA_ABOVEkREV,SE^COMMA_ABOVEkCOMMA_ABOV;R.kGRAV;ACC~T_BELOWkACUT;ACC~T_BELOWk|FT_TACK_BELOW
kR._TACK_BELOWk|FT_=GL;ABOVEkHORNk|FT_H&F_R:G_BELOWkUP_TACK_BELOWkDOWN_TACK_BELOWkPLUS>IGN_BELOW
kM:US>IGN_BELOWkP&AT&IZE^HOOK_BELOWkRETROF|X_HOOK_BELOWkDOT_BELOWlIA,ESIS_BELOWkR:G_BELOW
kCOMMA_BELOWlEDILLAkOG@EKkV,TIC&_L:;BELOWkBRIDG;BELOWk:V,TE^DOUBL;+CH_BELOWkC+@_BELOW
lIRCUMF|X_ACC~T_BELOWkBREV;BELOWk:V,TE^BREV;BELOWkTILD;BELOWkMACR@_BELOWkLOW_L:EkDOUBL;LOW_L:E
kTILD;OV,LAYkSHORT>TROK;OV,LAYkL@G>TROK;OV,LAYkSHORT>OLIDUS_OV,LAYkL@G>OLIDUS_OV,LAY
kR._H&F_R:G_BELOWk:V,TE^BRIDG;BELOWkSQU+;BELOWlEAGULL_BELOWkX_ABOVEkV,TIC&_TILDEkDOUBL;OV,L:E
kGRAV;T@;M+KkACUT;T@;M+KkGREEK_P,ISPOM~IqKOR@ISqDI&YTIKA_T@OSqYPOGEGRAMM~IkBRIDG;ABOVE
kEQU&S>IGN_BELOWkDOUBL;V,TIC&_L:;BELOWk|FT_=GL;BELOWkNOT_TILD;ABOVEkHOMOTHETIC_ABOVE
k&MOST_EQU&_TO_ABOVEk|FT_R._+ROW_BELOWkUPW+DS_+ROW_BELOWkGRAPHEM;JO:,kR._+ROWHEA^ABOVE
k|FT_H&F_R:G_ABOVEkF,MATAkX_BELOWk|FT_+ROWHEA^BELOWkR._+ROWHEA^BELOWy^=^UP_+ROWHEA^BELOW
qH&F_R:G_ABOVEkDOT_ABOV;R.kAST,ISK_BELOWkDOUBL;R:G_BELOWkZIGZAG_ABOVEkDOUBL;BREV;BELOWwrMACR@x_BELOW
rTILDEr:V,TE^BREVErR.W+DS_+ROW_BELOWkLAT:>M&!AyTT,_EyTT,_IyTT,_OyTT,_UyTT,_CyTT,_DyTT,_HyTT,_MyTT,_R
yTT,_TyTT,_VyTT,_XaGREEK_%!HETAgSM&!HETAg%!+CHAIC>AMPIgSM&!+CHAIC>AMPIgNUM,&>IGNgLOW,_NUM,&>IGN
g%!PAMPHYLI=_DIGAMMAgSM&!PAMPHYLI=_DIGAMMAz37AgYPOGEGRAMM~IgSM&L_REV,SE^LUNAT;SIGMA>YMBOL
mDOTTE^LUNAT;SIGMA>YMBOLmREV,SE^DOTTE^LUNAT;SIGMA>YMBOLgQUESTI@_M+Kg%!YOTz384gT@OSgDI&YTIKA_T@OS
g%!&PHA$T@OSg=O_TE|IAg%!EPSIL@$T@OSwTA$T@OSvIOTA$T@OSz38CvOMICR@$T@OSz38EvUPSIL@$T@OSvOMEGA$T@OS
gSM&!IOTA$DI&YTIKA_=^T@OSg%!&PHAvBETAvGAMMAvDELTAvEPSIL@vZETAvETAvTHETAvIOTAvKAPPAvLAMDAvMUvNUvXI
vOMICR@vPIvRHOz3A3vSIGMAvTAUvUPSIL@vPHIvCHIvPSIvOMEGAvIOTA$DI&YTIKAvUPSIL@$DI&YTIKAgSM&!&PHA$T@OS
tEPSIL@$T@OSuTA$T@OStIOTA$T@OStUPSIL@$DI&YTIKA_=^T@OSt&PHAtBETAtGAMMAtDELTAtEPSIL@tZETAtETAtTHETA
tIOTAtKAPPAtLAMDAtMUtNUtXItOMICR@tPItRHOtF:&>IGMAtSIGMAtTAUtUPSIL@tPHItCHItPSItOMEGAtIOTA$DI&YTIKA
tUPSIL@$DI&YTIKAtOMICR@$T@OStUPSIL@$T@OStOMEGA$T@OSg%L_KAI>YMBOLgBETA>YMBOLgTHETA>YMBOL
gUPSIL@$HOOK>YMBOLtACUT;=^HOOK>YMBOLtDIA,ESIS_=^HOOK>YMBOLgPHI>YMBOLhI>YMBOLgKAI>YMBOL
g|TT,_+CHAIC_KOPPAgSM&!+CHAIC_KOPPAg|TT,>TIGMAgSM&!STIGMAg|TT,_DIGAMMAgSM&!DIGAMMAg|TT,_KOPPA
gSM&!KOPPAg|TT,>AMPIgSM&!SAMPIaCOPTIC_%!SHEIhSM&!SHEIh%!FEIhSM&!FEIh%!KHEIhSM&!KHEIh%!HORIhSM&!HORI
h%!G=GIAhSM&!G=GIAh%!SHIMAhSM&!SHIMAh%!DEIhSM&!DEIaGREEK_KAPPA>YMBOLgRHO>YMBOLgLUNAT;SIGMA>YMBOL
hETT,_YOTg%L_THETA>YMBOLgLUNAT;EPSIL@>YMBOLgREV,SE^LUNAT;EPSIL@>YMBOLg%!SHOgSM&!SHO
g%L_LUNAT;SIGMA>YMBOLpETT,>=gSM&!S=gRHO$STROK;SYMBOLg%L_REV,SE^LUNAT;SIGMA>YMBOL
oDOTTE^LUNAT;SIGMA>YMBOLoREV,SE^DOTTE^LUNAT;SIGMA>YMBOLaCYRILLIC_%!IE$GRAVEyIOyDJEyGJEyUKRA:I=_IE
yDZEyBYELORUSSI=-UKRA:I=_IyYIyJEyLJEyNJEyTSHEyKJEyI$GRAVEySHORT_UyDZHEyAyBEyVEyGHEyDEyIEyZHEyZEyI
ySHORT_IyKAyELyEMy~yOyPEy,yESyTEyUyEFyHAyTSEyCHEySHAySHCHAyH+D>IGNyY,UySOFT>IGNyEyYUyYAjSM&!AwBEwVE
wGHEwDEwIEwZHExEwIwSHORT_IwKAwELxMxNwOwPEw,xSwTEwUwEFwHAwTSEwCHEwSHAyCHAwH+D>IGNwY,UwSOFT>IGNwEwYUxA
wIE$GRAVExOwDJEwGJEwUKRA:I=_IEwDZEwBYELORUSSI=-UKRA:I=_IwYIwJEwLJEwNJEwTSHEwKJEwI$GRAVEwSHORT_UwDZHE
j%!OMEGAjSM&!OMEGAj%!YATjSM&!YATj%!IOTIFIE^EjSM&!IOTIFIE^Ej%!LITTL;YUSjSM&!LITTL;YUS
j%!IOTIFIE^LITTL;YUSjSM&!IOTIFIE^LITTL;YUSj%!BIG_YUSjSM&!BIG_YUSj%!IOTIFIE^BIG_YUS
jSM&!IOTIFIE^BIG_YUSj%!KSIjSM&!KSIj%!PSIjSM&!PSIj%!FITAjSM&!FITAj%!IZHITSAjSM&!IZHITSA
j%!IZHITSA$DOUBL;GRAV;ACC~TjSM&!IZHITSA$DOUBL;GRAV;ACC~Tj%!UKjSM&!UKj%!ROUN^OMEGAjSM&!ROUN^OMEGA
j%!OMEGA$TITLOjSM&!OMEGA$TITLOj%!OTjSM&!OTj%!KOPPAjSM&!KOPPAjTHOUS=DS>IGNbOMB::G_CYRILLIC_TITLO
tP&AT&IZATI@tDASIA_PNEUMATAtPSILI_PNEUMATAuOKRYTIEtHUNDRE^THOUS=DS>IGNtMILLI@S>IGN
bYRILLIC_%!SHORT_I$TAILjSM&!SHORT_I$TAILj%!SEMISOFT>IGNjSM&!SEMISOFT>IGNj%!,$TICKjSM&!,$TICK
j%!GHE$UPTURNjSM&!GHE$UPTURNj%!GHE$STROKEjSM&!GHE$STROKEj%!GHE$MIDDL;HOOKjSM&!GHE$MIDDL;HOOK
j%!ZHE$DESC~D,jSM&!ZHE$DESC~D,j%!ZE$DESC~D,jSM&!ZE$DESC~D,j%!KA$DESC~D,jSM&!KA$DESC~D,
j%!KA$V,TIC&>TROKEjSM&!KA$V,TIC&>TROKEj%!KA$STROKEjSM&!KA$STROKEj%!BASHKIR_KAjSM&!BASHKIR_KA
j%!~$DESC~D,jSM&!~$DESC~D,j%L_LIGATUR;~_GHEjSM&L_LIGATUR;~_GHEj%!PE$MIDDL;HOOKjSM&!PE$MIDDL;HOOK
j%!ABKHASI=_HAjSM&!ABKHASI=_HAj%!ES$DESC~D,jSM&!ES$DESC~D,j%!TE$DESC~D,jSM&!TE$DESC~D,j%!STRA._U
jSM&!STRA._Uj%!STRA._U$STROKEjSM&!STRA._U$STROKEj%!HA$DESC~D,jSM&!HA$DESC~D,j%L_LIGATUR;T;TSE
jSM&L_LIGATUR;T;TSEj%!CHE$DESC~D,jSM&!CHE$DESC~D,j%!CHE$V,TIC&>TROKEjSM&!CHE$V,TIC&>TROKEj%!SHHA
jSM&!SHHAj%!ABKHASI=_CHEjSM&!ABKHASI=_CHEj%!ABKHASI=_CHE$DESC~D,jSM&!ABKHASI=_CHE$DESC~D,
j|TT,_P&OCHKAj%!ZHE$BREVEjSM&!ZHE$BREVEj%!KA$HOOKjSM&!KA$HOOKj%!EL$TAILjSM&!EL$TAILj%!~$HOOK
jSM&!~$HOOKj%!~$TAILjSM&!~$TAILj%!KHAKASSI=_CHEjSM&!KHAKASSI=_CHEj%!EM$TAILjSM&!EM$TAILwP&OCHKA
j%!A$BREVEjSM&!A$BREVEj%!A$DIA,ESISjSM&!A$DIA,ESISj%L_LIGATUR;A_IEjSM&L_LIGATUR;A_IEj%!IE$BREVE
jSM&!IE$BREVEj%!SCHWAjSM&!SCHWAj%!SCHWA$DIA,ESISjSM&!SCHWA$DIA,ESISj%!ZHE$DIA,ESISjSM&!ZHE$DIA,ESIS
j%!ZE$DIA,ESISjSM&!ZE$DIA,ESISj%!ABKHASI=_DZEjSM&!ABKHASI=_DZEj%!I$MACR@jSM&!I$MACR@j%!I$DIA,ESIS
jSM&!I$DIA,ESISj%!O$DIA,ESISjSM&!O$DIA,ESISj%!B+RE^OjSM&!B+RE^Oj%!B+RE^O$DIA,ESIS
jSM&!B+RE^O$DIA,ESISj%!E$DIA,ESISjSM&!E$DIA,ESISj%!U$MACR@jSM&!U$MACR@j%!U$DIA,ESISjSM&!U$DIA,ESIS
j%!U$DOUBL;ACUTEjSM&!U$DOUBL;ACUTEj%!CHE$DIA,ESISjSM&!CHE$DIA,ESISj%!GHE$DESC~D,jSM&!GHE$DESC~D,
j%!Y,U$DIA,ESISjSM&!Y,U$DIA,ESISj%!GHE$STROK;=^HOOKjSM&!GHE$STROK;=^HOOKj%!HA$HOOKjSM&!HA$HOOK
j%!HA$STROKEjSM&!HA$STROKEj%!KOMI_DEjSM&!KOMI_DEj%!KOMI_DJEjSM&!KOMI_DJEj%!KOMI_ZJEjSM&!KOMI_ZJE
j%!KOMI_DZJEjSM&!KOMI_DZJEj%!KOMI_LJEjSM&!KOMI_LJEj%!KOMI_NJEjSM&!KOMI_NJEj%!KOMI>JEjSM&!KOMI>JE
j%!KOMI_TJEjSM&!KOMI_TJEj%!REV,SE^ZEjSM&!REV,SE^ZEj%!EL$HOOKjSM&!EL$HOOKj%!LHAjSM&!LHAj%!RHAjSM&!RHA
j%!YAEjSM&!YAEj%!QAjSM&!QAj%!WEjSM&!WEj%!&EUT_KAjSM&!&EUT_KAj%!EL$MIDDL;HOOKjSM&!EL$MIDDL;HOOK
j%!~$MIDDL;HOOKjSM&!~$MIDDL;HOOKj%!PE$DESC~D,jSM&!PE$DESC~D,j%!SHHA$DESC~D,jSM&!SHHA$DESC~D,
j%!~$|FT_HOOKjSM&!~$|FT_HOOKj%!DZZHEjSM&!DZZHEj%!DCHEjSM&!DCHEj%!EL$DESC~D,jSM&!EL$DESC~D,
z531a+M~I=_%!AYByB~yGIMyDAyECHyZAyEHyETyTOyZHEy:IyLIWNyXEHyCAyK~yHOyJAyGHADyCHEHyM~yYIyNOWySHAyVO
yCHAyPEHyJHEHyRAySEHyVEWyTIWNyREHyCOyYIWNyPIWRyKEHyOHyFEHz559jMODIFI,_|TT,_|FT_H&F_R:GjAPOSTROPHE
jEMPHASIS_M+KkXCLAMATI@_M+KjCOMMAjQUESTI@_M+KjABBREVIATI@_M+KjSM&!TURNE^AYBwAYBwB~wGIMwDAwECHwZAwEH
xTwTOwZHEw:IwLIWNwXEHwCAwK~wHOwJAwGHADwCHEHwM~wYIwNOWwSHAwVOwCHAwPEHwJHEHwRAwSEHwVEWwTIWNwREHwCO
wYIWNwPIWRwKEHwOHwFEHqIGATUR;ECH_YIWNqETT,_YI$STROKEjFULL>TOPjHYPH~z58DaR.-FAC:G_+M~I=_ET,NITY>IGN
a|FT-FAC:G_+M~I=_ET,NITY>IGNa+M~I=_DRAM>IGNz591aHEBREW_ACC~T_ETNAHTAoSEGOLpH&SHE|ToZAQEF_QAT=uGADOL
oTIPEHAoREVIAoZ+QAoPASHTAoYETIVoTEVIRoG,ESHu_MUQDAMrSHAYIMoQ+NEY_P+AoTELISHA_GEDOLAoPAZ,
oATNAH_HAFUKHoMUNAHpAHAPAKHp,KHAu_KEFULAoD+GAoQADMAoTELISHA_QET=AoY,AH_B~_YOMOoO|oILUYoDEHIoZ:OR
hM+K_MASORA_CIRC|hPO:T>HEVAnHATAF>EGOLtPATAHtQAMATSoIRIQnTS,EnSEGOLnPATAHnQAMATSnHOLAMs_HAS,_FOR_VAV
nQUBUTSnDAGESH_OR_MAPIQnMETEGiUNCTUATI@_MAQAFiO:T_RAFEiUNCTUATI@_PASEQiO:T>H:_DOTo:_DOT
iUNCTUATI@>OF_PASUQhM+K_UPP,_DOTmLOW,_DOThPUNCTUATI@_NUN_HAFUKHAiO:T_QAMATS_QAT=z5D0h|TT,_&EFoBET
oGIMELoD&EToHEoVAVoZAY:oHEToTEToYODoF:&_KAFoKAFoLAMEDoF:&_MEMoMEMoF:&_NUNoNUNoSAMEKHoAY:oF:&_PEoPE
oF:&_TSADIoTSADIoQOFoRESHoSH:oTAVz5EFhYO^TRI=G|hLIGATUR;YIDDISH_DOUBL;VAVyVAV_YODyDOUBL;YOD
hPUNCTUATI@_G,ESHwSHAYIMz600a+ABIC_NUMB,>IGNhSIGN>=AHhFOOTNOT;M+K,hSIGN>AFHAoMVAThNUMB,_M+K_ABOVE
g-:DIC_CUB;ROOTnFOURTH_ROOTg_RAYg-:DIC_P,_MILL;SIGNrT~_THOUS=D>IGNbFGH=I>IGNbRABIC_COMMA
hDAT;SEP+ATORhPOETIC_V,S;SIGNhSIGN_MISRAmS&L&LAHOU_&AYH;WASS&LAMm&AYH;ASS&LAMmRAHMATULLAH_&AYHE
oDI_&LAHOU_=HUmTAKH&LUSiM&L_HIGH_TAHsLIGATUR;&EF$LAM$YEHsZA:nFATHAnDAMMAnKASRAiEMICOL@h|TT,_M+K
h~^OF_TEXT_M+KhTRIPL;DOT_PUNCTUATI@_M+KhQUESTI@_M+Kh|TT,_KASHMIRI_YEHoHAMZAo&EF$MADDA_ABOVE
yHAMZA_ABOVEoWAW$HAMZA_ABOVEo&EF$HAMZA_BELOWoYEH$HAMZA_ABOVEo&EFoBEHoTEH_M+BUTArpHEHoJEEMoHAHoKHAH
oD&oTH&oREHoZA:oSE~pHE~pADoDADoTAHoZAHoA:oGHA:oKEHEH$TWO_DOTS_ABOVEy_THRE;DOTS_BELOW
oF+SI_YEH$:V,TE^VyWITH_TWO_DOTS_ABOVEyWITH_THRE;DOTS_ABOVEhTATWEELh|TT,_FEHoQAFoKAFoLAMoMEEMoNO@oHEH
oWAWo&EF_MAKSURAoYEHhFATHAT=hDAMMAT=hKASRAT=hFATHAhDAMMAhKASRAhSHADDAiUKUNhMADDAH_ABOVEhHAMZA_ABOVE
nBELOWhSUBSCRIPT_&EFh:V,TE^DAMMAhM+K_NO@_GHUNNAhZW+AKAYhVOWEL>IGN>M&L_V_ABOVEs:V,TED>M&L_V_ABOVE
sDOT_BELOWhREV,SE^DAMMAhFATHA$TWO_DOTShWAVY_HAMZA_BELOWg-:DIC_DIGIT_Z,Ot@EtTWOuHREEtFOURuIVEtSIXuEV~
tE.tN:Eg_P,C~T>IGNhDECIM&>EP+ATORhTHOUS=DS>EP+ATORhFIV;PO:TED>T+h|TT,_DOT|SS_BEHwQAFoSUP,SCRIPT_&EF
o&EF_WASLAuITH_WAVY_HAMZA_ABOVEyWAVY_HAMZA_BELOWoHIGH_HAMZAy_&EFy_WAWoU$HAMZA_ABOVEoHIGH_HAMZA_YEH
oTTEHsEHoBEEHoTEH$R:GxTHRE;DOTS_ABOV;DOWNW+DSoPEHoTEHEHoBEHEHoHAH$HAMZA_ABOVExTWO_DOTS_V,TIC&_ABOVE
oNYEHoDYEHoHAH$THRE;DOTS_ABOVEoTCHEHtEHoDD&p&$R:GxDOT_BELOWyOT_BELOW_=D>M&L_TAHqH&pDAH&pUL
p&$THRE;DOTS_ABOV;DOWNW+DSxFOUR_DOTS_ABOVEoRREHpEH$SM&L_VxR:GxDOT_BELOWxSM&L_V_BELOW
xDOT_BELOW_=^DOT_ABOVExTWO_DOTS_ABOVEoJEHoREH$FOUR_DOTS_ABOVEoSE~$DOT_BELOW_=^DOT_ABOVE
yTHRE;DOTS_BELOWyTHRE;DOTS_BELOW_=^THRE;DOTS_ABOVEpAD$TWO_DOTS_BELOWyHRE;DOTS_ABOVE
oTAH$THRE;DOTS_ABOVEoA:$THRE;DOTS_ABOVEoDOT|SS_FEHoFEH$DOT_MOVE^BELOWyOT_BELOWoVEH
oFEH$THRE;DOTS_BELOWoPEHEHoQAF$DOT_ABOVExTHRE;DOTS_ABOVEoKEHEHoSWASH_KAFoKAF$R:GxDOT_ABOVEoNG
oKAF$THRE;DOTS_BELOWoGAFr$R:GoNGOEHoGAF$TWO_DOTS_BELOWpUEHpAF$THRE;DOTS_ABOVEoLAM$SM&L_VxDOT_ABOVE
xTHRE;DOTS_ABOVEyHRE;DOTS_BELOWoNO@$DOT_BELOWtGHUNNAoRNO@oNO@$R:GyTHRE;DOTS_ABOVEoHEH_DOACHASHMEE
oTCHEH$DOT_ABOVEoHEH$YEH_ABOVEsGO&w$HAMZA_ABOVEoTEH_M+BUTA_GO&oWAW$R:GoKIRGHIZ_OEoOEoUoYUoKIRGHIZ_YU
oWAW$TWO_DOTS_ABOVEoVEoF+SI_YEHoYEH$TAILxSM&L_VoWAW$DOT_ABOVEoEoYEH$THRE;DOTS_BELOWsB+REE
y$HAMZA_ABOVEhFULL>TOPh|TT,_AEhSM&L_HIGH_LIGATUR;SAD$LAM$&EF_MAKSURAyR;QAF$LAM$&EF_MAKSURA
sMEEM_:ITI&<sLAM_&EFsJEEMsTHRE;DOTSsSE~h~^OF_AYAHhST+T_OF_RUB_EL_HIZBiM&L_HIGH_ROUNDE^Z,O
sUPR._RECT=GUL+_Z,OsDOT|SS_HEA^OF_KHAHsMEEM_ISOLATED<nLOW>E~nHIGH_MADDAnWAWnYEHnHIGH_YEHsNO@
hPLAC;OF>AJDAHhEMPTY_C~TR;LOW>TOPuHIGH>TOPhROUNDE^HIGH>TOP$FIL|^C~TREhSM&L_LOW_MEEMh|TT,_D&$:V,TE^V
oREH$:V,TE^VaEXT~DE^+ABIC-:DIC_DIGIT_Z,OyGIT_@EyGIT_TWOyGIT_THREEyGIT_FOURyGIT_FIVEyGIT>IXyGIT>EV~
yGIT_E.yGIT_N:Ea+ABIC_|TT,>HE~$DOT_BELOWoDAD$DOT_BELOWoGHA:$DOT_BELOWhSIGN>:DHI_AMP,S=D
tPOSTPOSITI@_M~h|TT,_HEH$:V,TE^VaSYRIAC_~^OF_P+AGRAPHhSUPR&:E+_FULL>TOPjBL:E+_FULL>TOPjPR&:E+_COL@
jBL:E+_COL@hHORIZ@T&_COL@hCOL@>KEWE^|FTuR.hSUPR&:E+_COL@>KEWE^|FTjBL:E+_COL@>KEWE^R.hC@TRACTI@
hH+K|=_OBELUSqMETOBELUSqAST,ISCUSz70FhABBREVIATI@_M+Kh|TT,_&APHoSUP,SCRIPT_&APHoBETHoGAM&t_G+SHUNI
oD&ATHpOT|SS_D&ATH_RISHoHEoWAWoZA:oHETHoTETHs_G+SHUNIoYUDHs_HEoKAPHoLAMADHoMIMoNUNoSEMKATH
oF:&>EMKATHoEoPEoREV,SE^PEoSADHEoQAPHoRISHoSH:oTAWoP,SI=_BHETHwGHAM&wDH&ATHhPTHAHA_ABOVEoBELOW
oDOTTEDhZQAPHA_ABOVEoBELOWoDOTTEDhRBASA_ABOVEnBELOWhDOTTE^ZLAMA_HORIZ@T&u=GUL+hHBASA_ABOVEnBELOW
m-ESASA_DOTTEDhESASA_ABOVEnBELOWhRWAHAhFEM::;DOThQUSHSHAYAhRUKKAKHAhTWO_V,TIC&_DOTS_ABOVEy_BELOW
iHRE;DOTS_ABOVEsBELOWhOBLIQU;L:;ABOVEuBELOWhMUSIChB+REKHz74Dh|TT,>OGDI=_ZHA:wKHAPHwFE
a+ABIC_|TT,_BEH$THRE;DOTS_HORIZ@T&LY_BELOWxDOT_BELOW_=^THRE;DOTS_ABOVExTHRE;DOTS_PO:T:G_UPW+DS_BELOW
yHRE;DOTS_PO:T:G_UPW+DS_BELOW_=^TWO_DOTS_ABOVEyWO_DOTS_BELOW_=^DOT_ABOVEx:V,TED>M&L_V_BELOWxSM&L_V
oHAH$TWO_DOTS_ABOVEyHRE;DOTS_PO:T:G_UPW+DS_BELOWoD&$TWO_DOTS_V,TIC&LY_BELOW_=D>M&L_TAH
x:V,TED>M&L_V_BELOWoREH$STROKEoSE~$FOUR_DOTS_ABOVEoA:$TWO_DOTS_ABOVEyHRE;DOTS_PO:T:G_DOWNW+DS_ABOVE
yWO_DOTS_V,TIC&LY_ABOVEoFEH$TWO_DOTS_BELOWyHRE;DOTS_PO:T:G_UPW+DS_BELOWoKEHEH$DOT_ABOVE
y_THRE;DOTS_ABOVEy_THRE;DOTS_PO:T:G_UPW+DS_BELOWoMEEM$DOT_ABOVEyDOT_BELOWoNO@$TWO_DOTS_BELOW
ySM&L_TAHySM&L_VoLAM$B+oREH$TWO_DOTS_V,TIC&LY_ABOVExHAMZA_ABOVEoSE~$TWO_DOTS_V,TIC&LY_ABOVE
oHAH$SM&L_+ABIC_|TT,_TAH_BELOWyM&L_+ABIC_|TT,_TAH_=^TWO_DOTSoSE~$SM&L_+ABIC_|TT,_TAH_=^TWO_DOTS
oREH$SM&L_+ABIC_|TT,_TAH_=^TWO_DOTSoHAH$SM&L_+ABIC_|TT,_TAH_ABOVE
o&EF$EXT~DE^+ABIC-:DIC_DIGIT_TWO_ABOVEyEXT~DE^+ABIC-:DIC_DIGIT_THRE;ABOVE
oF+SI_YEH$EXT~DE^+ABIC-:DIC_DIGIT_TWO_ABOVEyWITH_EXT~DE^+ABIC-:DIC_DIGIT_THRE;ABOVE
yWITH_EXT~DE^+ABIC-:DIC_DIGIT_FOUR_BELOWoWAW$EXT~DE^+ABIC-:DIC_DIGIT_TWO_ABOVE
yXT~DE^+ABIC-:DIC_DIGIT_THRE;ABOVEoYEH_B+REE$EXT~DE^+ABIC-:DIC_DIGIT_TWO_ABOVE
y$EXT~DE^+ABIC-:DIC_DIGIT_THRE;ABOVEoHAH$EXT~DE^+ABIC-:DIC_DIGIT_FOUR_BELOW
oSE~$EXT~DE^+ABIC-:DIC_DIGIT_FOUR_ABOVEy:V,TE^VoKAF$TWO_DOTS_ABOVEaTHA=A_|TT,_HAAoSHAVIY=IoNO@UoRAA
oBAAoLHAVIY=IoKAAFUo&IFUoVAAVUoMEEMUoFAAFUoDHA&UoTHAAoLAAMUoGAAFUpNAVIY=IoSE~UoDAVIY=IoZAVIY=I
oTAVIY=IoYAAoPAVIY=IoJAVIY=IoCHAVIY=IoTTAAoHHAAoKHAAoTHA&UoZAAoSHE~UpAADHUoDAADHUoTOoZOoA:UoGHA:U
oQAAFUoWAAVUhABAFILIiABAAFILIhIBIFILIhEEBEEFILIhUBUFILIhOOBOOFILIhEBEFILIiYBEYFILIhOBOFILIiABOAFILI
hSUKUNh|TT,_NAAz7C0aNKO_DIGIT_Z,Ok@EkTWOlHREEkFOURlIVEkSIXlEV~kE.kN:Ee|TT,_AlEElIlElUlOOmlDAGBAS:NA
lNlBAlPAlTAlJAlCHAlDAlRAmRAlSAlGBAlFAlKAlLAlNA_WOLOSOlMAlNYAmAlHAlWAlYAlNYA_WOLOSOlJ@A_JAqCHAqRA
eCOMB::G>HORT_HIGH_T@EuLOW_T@EuRIS:G_T@EoL@G_DESC~D:G_T@EtHIGH_T@EtLOW_T@EtRIS:G_T@EoNAS&IZATI@_M+K
oDOUBL;DOT_ABOVEeHIGH_T@;APOSTROPHEeLOW_T@;APOSTROPHEeSYMBOL_OO_D~N~lGBAKURUN~eCOMMAeEXCLAMATI@_M+K
eLAJ=Y&=z7FDeD=TAY&=fOROM;SIGNeTAM=>IGNaSAM+IT=_|TT,_&AFrBITrGAM=rD&ATrIYrBAArZ~rITrTITrYUTrKAAF
rLABATrMIMrNUNrS:GAATr:rFIrTSAADIYrQUFrRISHrSH=rTAAFkM+K_:r-&AFpOCCLUSI@pDAGESH
lODIFI,_|TT,_EP~THETIC_YUTl+K_EP~THETIC_YUTkVOWEL>IGN_L@G_EvEvOV,L@G_AAvL@G_AAvAAvOV,L@G_AvL@G_AvA
kMODIFI,_|TT,>HORT_AkVOWEL>IGN>HORT_AvL@G_UvUkMODIFI,_|TT,_IkVOWEL>IGN_L@G_IvIvOvSUKUNkM+K_NEQUDAA
z830kPUNCTUATI@_NEQUDAAwAFSAAQxNGEDwBAUwATMAAUwSHIYYA&AAkABBREVIATI@_M+KkPUNCTUATI@_MELODIC_QITSA
wZIQAAwQITSAwZAEFwTURUw+KA=UwSOF_MASHFAATw=NAAUz840aM=DAIC_|TT,_H&QApABqGqDqHpUSH~NApAZpITpATTqKSAr
qLqMqNqSp:pAPqSZqQqRqSHqTpDUSH~NApKADpA:iAFFRICATI@_M+KiVOC&IZATI@_M+KiGEM:ATI@_M+Kz85EiPUNCTUATI@
z860aSYRIAC_|TT,_M&AY&AM_NGAyJAyNYAyTTAyNNAyNNNAyBHAyRAyLLAyLLLAySSA
z870a+ABIC_|TT,_&EF$ATTACHE^FATHAyATTACHE^TOP_R._FATHAyR._MIDDL;STROKEy|FT_MIDDL;STROKE
yATTACHE^KASRAyATTACHE^BOTTOM_R._KASRAyATTACHE^ROUN^DOT_ABOVEyATTACHE^R._ROUN^DOT
yATTACHE^|FT_ROUN^DOTyATTACHE^ROUN^DOT_BELOWyDOT_ABOVEyATTACHE^TOP_R._FATHA_=^DOT_ABOVE
yR._MIDDL;STROK;=^DOT_ABOVEyATTACHE^BOTTOM_R._KASRA_=^DOT_ABOVEyATTACHE^TOP_R._FATHA_=^|FT_R:G
yR._MIDDL;STROK;=^|FT_R:GyATTACHE^BOTTOM_R._KASRA_=^|FT_R:GyATTACHE^R._HAMZAyATTACHE^|FT_HAMZA
hTATWEEL$OV,STRUCK_HAMZAySTRUCK_WAWuTWO_DOTS_BELOWh|TT,_TH:_YEHhBASEL:;ROUN^DOThRAISE^ROUN^DOT
h|TT,_NO@$:V,TED>M&L_VoHAH$:V,TED>M&L_V_BELOWoTAH$DOT_BELOWxTHRE;DOTS_BELOW
oKEHEH$TWO_DOTS_V,TIC&LY_BELOWhV,TIC&_TAILz890hPOUN^M+K_ABOVEiIASTR;M+K_ABOVE
z898hSM&L_HIGH_WOR^&-JUZnLOW_WOR^ISHMAAMxMA&AwTASHEELhMADDA_WAAJIBhSUP,SCRIPT_&EF_MOKHASSAS
hDOUB|^MADDAhH&F_MADDA_OV,_MADDAh|TT,_BEH$SM&L_V_BELOWxHAMZA_ABOVEoJEEM$TWO_DOTS_ABOVE
oTAH$TWO_DOTS_ABOVEoFEH$DOT_BELOW_=^THRE;DOTS_ABOVEoQAF$DOT_BELOWoLAM$DOUBL;B+oMEEM$THRE;DOTS_ABOVE
oYEH$TWO_DOTS_BELOW_=^HAMZA_ABOVEyWO_DOTS_BELOW_=^DOT_ABOVEoREH$LOOPoWAW$DOT_WITH:oROH:GYA_YEH
oLOW_&EFoD&$THRE;DOTS_BELOWoSAD$THRE;DOTS_BELOWoGAF$:V,TED>TROKEoSTRA._WAWoZA:$:V,TE^V_ABOVE
oA:$THRE;DOTS_BELOWoKAF$DOT_BELOWoQAF$DOT_BELOW_=^NO_DOTS_ABOVEoBEH$SM&L_MEEM_ABOVE
oPEH$SM&L_MEEM_ABOVEoTEH$SM&L_TEH_ABOVEoREH$SM&L_NO@_ABOVEoYEH$TWO_DOTS_BELOW_=D>M&L_NO@_ABOVE
oAFRIC=_FEHwQAFwNO@oPEH$SM&L_VoTEH$SM&L_VpTEH$SM&L_VpCHEH$SM&L_VoKEHEH$SM&L_VoGHA:$THRE;DOTS_ABOVE
oAFRIC=_QAF$THRE;DOTS_ABOVEoJEEM$THRE;DOTS_ABOVEyTHRE;DOTS_BELOWoLAM$SM&L_+ABIC_|TT,_TAH_ABOVEoGRAF
hSM&L_F+SI_YEHnHIGH_F+SI_YEHsYEH_B+REE$TWO_DOTS_BELOWsWORD>AHsZAHhL+G;ROUN^DOT_ABOVExBELOW
hSUKUN_BELOWhL+G;CIRCL;BELOWnROUN^DOT_:SID;CIRCL;BELOWhSM&L_LOW_WAWnHIGH_WOR^+-RUBsSADsA:sQAF
sNO@$KASRAnLOW_NO@$KASRAnHIGH_WOR^ATH-TH&ATHAyS-SAJDAyN-NISFxSAKTAxQIFxWAQFAsFOOTNOT;M+K,sSIGN>AFHA
hDISPUTE^~^OF_AYAHhTURNE^DAMMA_BELOWhCURLY_FATHAnDAMMAnKASRAnFATHAT=nDAMMAT=nKASRAT=hT@;@;DOT_ABOVE
mTWO_DOTS_ABOVEmLOOP_ABOVEm@;DOT_BELOWmTWO_DOTS_BELOWmLOOP_BELOWhOP~_FATHAT=mDAMMAT=mKASRAT=
hSM&L_HIGH_WAWhFATHA$R:GsDOT_ABOVEhKASRA$DOT_BELOWh|FT_+ROWHEA^ABOVEhR._+ROWHEA^ABOVE
h|FT_+ROWHEA^BELOWhR._+ROWHEA^BELOWhDOUBL;R._+ROWHEA^ABOVEyWHEA^ABOVE$DOThR._+ROWHEA^ABOVE$DOT
hDAMMA$DOThM+K>IDEWAYS_NO@_GHUNNAaDEV=AG+I>IGN_:V,TE^C=DRAB:DUqC=DRAB:DUq=USV+AqVIS+GAl|TT,>HORT_AsA
tAsItIsUtUsVOC&IC_RyC_LsC=DRA_EsSHORT_EsEsAIsC=DRA_OsSHORT_OsOsAUsKAtHAsGAtHAsNGAsCAtHAsJAtHAsNYA
sTTAuHAsDDAuHAsNNAsTAtHAsDAtHAsNAtNNAsPAtHAsBAtHAsMAsYAsRAtRAsLAtLAuLAsVAsSHAtSAtAsHAlVOWEL>IGN_OE
xOElSIGN_NUKTAqAVAGRAHAlVOWEL>IGN_AAwIxIwUxUwVOC&IC_RyC&IC_RRwC=DRA_EwSHORT_EwEwAIwC=DRA_OwSHORT_OwO
wAUlSIGN_VIRAMAlVOWEL>IGN_PRISHTHAMATRA_EwAWlOMlSTRESS>IGN_UDATTAx=UDATTAlGRAV;ACC~TlACUT;ACC~T
lVOWEL>IGN_C=DRA_L@G_EwUExUEl|TT,_QAsKHHAsGHHAsZAsDDDHAsRHAsFAsYYAsVOC&IC_RRyC_LLlVOWEL>IGN_VOC&IC_L
yC&IC_LLlD=DAmOUBL;D=DAmIGIT_Z,Or@ErTWOsHREErFOURsIVErSIXsEV~rE.rN:ElABBREVIATI@>IGN
lSIGN_HIGH>PAC:G_DOTl|TT,_C=DRA_AsOEtOEsAWsUEtUEsM+W+I_DDAsZHAsHEAVY_YAsGGAsJJAsGLOTT&>TOPsDDDAsBBA
aB~G&I_=JIiSIGN_C=DRAB:DUn=USV+AnVIS+GAz985i|TT,_AqApIqIpUqUpVOC&IC_RxLz98FpEpAIz993pOpAUpKAqHApGA
qHApNGApCAqHApJAqHApNYApTTArHApDDArHApNNApTAqHApDAqHApNAz9AApPAqHApBAqHApMApYApRAz9B2pLAz9B6pSHAqSA
qApHAz9BCiSIGN_NUKTAnAVAGRAHAiVOWEL>IGN_AAtIuItUuUtVOC&IC_RyIC_RRz9C7tEtAIz9CBtOtAUiSIGN_VIRAMA
i|TT,_KH=DA_TAz9D7iAU_|NGTH_M+Kz9DCi|TT,_RRAqHAz9DFpYYApVOC&IC_RRxLLiVOWEL>IGN_VOC&IC_LyIC_LL
z9E6iDIGIT_Z,Oo@EoTWOpHREEoFOURpIVEoSIXpEV~oE.oN:Ei|TT,_RA$MIDDL;DIAG@&xLOW,_DIAG@&iRUPE;M+KoSIGN
iCURR~CY_NUM,ATOR_@EyOR_TWOyOR_THREEyOR_FOURyOR_@;|SS_TH=_TH;D~OM:ATORrD~OM:ATOR>IXTE~iISSH+
iG=DA_M+Ki|TT,_VEDIC_=USV+AiABBREVIATI@>IGNiS=DHI_M+KzA01aGURMUKHI>IGN_ADAK_B:DIoB:DIoVIS+GA
zA05j|TT,_ArAqIrIqUrUzA0FqEEqAIzA13qOOqAUqKArHAqGArHAqNGAqCArHAqJArHAqNYAqTTAsHAqDDAsHAqNNAqTArHAqDA
rHAqNAzA2AqPArHAqBArHAqMAqYAqRAzA32qLArLAzA35qVAqSHAzA38rAqHAzA3CjSIGN_NUKTAzA3EjVOWEL>IGN_AAuIvIuU
vUzA47uEEuAIzA4BuOOuAUjSIGN_VIRAMAzA51oUDAATzA59j|TT,_KHHAqGHHAqZAqRRAzA5EqFAzA66jDIGIT_Z,Op@EpTWO
qHREEpFOURqIVEpSIXqEV~pE.pN:EjTIPPIjADDAKjIRIjURAjEK_@K+jSIGN_YAKASHjABBREVIATI@>IGN
zA81cJ+ATI>IGN_C=DRAB:DUo=USV+AoVIS+GAzA85j|TT,_ArAqIrIqUrUqVOC&IC_RyLjVOWEL_C=DRA_EzA8Fj|TT,_EqAI
jVOWEL_C=DRA_OzA93j|TT,_OqAUqKArHAqGArHAqNGAqCArHAqJArHAqNYAqTTAsHAqDDAsHAqNNAqTArHAqDArHAqNAzAAAqPA
rHAqBArHAqMAqYAqRAzAB2qLArLAzAB5qVAqSHArSArAqHAzABCjSIGN_NUKTAoAVAGRAHAjVOWEL>IGN_AAuIvIuUvU
uVOC&IC_RyLIC_RRuC=DRA_EzAC7uEuAIuC=DRA_OzACBuOuAUjSIGN_VIRAMAzAD0jOMzAE0j|TT,_VOC&IC_RRyLL
jVOWEL>IGN_VOC&IC_LyLIC_LLzAE6jDIGIT_Z,Op@EpTWOqHREEpFOURqIVEpSIXqEV~pE.pN:EjABBREVIATI@>IGN
jRUPE;SIGNzAF9j|TT,_ZHAjSIGN>UKUNpHADDAoMADDAHoTHREE-DOT_NUKTA_ABOVEoCIRCL;NUKTA_ABOVE
oTWO-CIRCL;NUKTA_ABOVEzB01aORIYA>IGN_C=DRAB:DUl=USV+AlVIS+GAzB05g|TT,_AoAnIoInUoUnVOC&IC_RvLzB0FnE
nAIzB13nOnAUnKAoHAnGAoHAnNGAnCAoHAnJAoHAnNYAnTTApHAnDDApHAnNNAnTAoHAnDAoHAnNAzB2AnPAoHAnBAoHAnMAnYA
nRAzB32nLAoLAzB35nVAnSHAoSAoAnHAzB3CgSIGN_NUKTAlAVAGRAHAgVOWEL>IGN_AArIsIrUsUrVOC&IC_Ry_RRzB47rErAI
zB4BrOrAUgSIGN_VIRAMAzB55lOV,L:EgAI_|NGTH_M+KhU_|NGTH_M+KzB5Cg|TT,_RRAoHAzB5FnYYAnVOC&IC_RRvLL
gVOWEL>IGN_VOC&IC_Ly_LLzB66gDIGIT_Z,Om@EmTWOnHREEmFOURnIVEmSIXnEV~mE.mN:EgISSH+g|TT,_WA
gFRACTI@_@;QU+T,tH&FpTHRE;QU+T,Sp@;SIXTE~THtE.HpTHRE;SIXTE~THSzB82aTAMIL>IGN_=USV+AlVIS+GA
zB85g|TT,_AoAnIoInUoUzB8EnEoEnAIzB92nOoOnAUnKAzB99nNGAnCAzB9CnJAzB9EnNYAnTTAzBA3nNNAnTAzBA8nNAoNNA
nPAzBAEnMAnYAnRAoRAnLAoLApLAnVAnSHAoSAoAnHAzBBEgVOWEL>IGN_AArIsIrUsUzBC6rEsErAIzBCArOsOrAU
gSIGN_VIRAMAzBD0gOMzBD7gAU_|NGTH_M+KzBE6gDIGIT_Z,Om@EmTWOnHREEmFOURnIVEmSIXnEV~mE.mN:EgNUMB,_T~
n@;HUNDREDrTHOUS=DgDAY>IGNgM@TH>IGNgYE+>IGNgDEBIT>IGNgCREDIT>IGNgAS_ABOV;SIGNgRUPE;SIGNgNUMB,>IGN
zC00bELUGU>IGN_COMB::G_C=DRAB:DU_ABOVEn=DRAB:DUm=USV+AmVIS+GAmCOMB::G_=USV+A_ABOVEh|TT,_ApAoIpIoUpU
oVOC&IC_RwLzC0EoEpEoAIzC12oOpOoAUoKApHAoGApHAoNGAoCApHAoJApHAoNYAoTTAqHAoDDAqHAoNNAoTApHAoDApHAoNA
zC2AoPApHAoBApHAoMAoYAoRApRAoLApLAqLAoVAoSHApSApAoHAzC3ChSIGN_NUKTAmAVAGRAHAhVOWEL>IGN_AAsItIsUtU
sVOC&IC_RyC_RRzC46sEtEsAIzC4AsOtOsAUhSIGN_VIRAMAzC55h|NGTH_M+KhAI_|NGTH_M+KzC58h|TT,_TSAoDZAoRRRA
zC5DoNAKA+A_POLLUzC60oVOC&IC_RRwLLhVOWEL>IGN_VOC&IC_LyC_LLzC66hDIGIT_Z,On@EnTWOoHREEnFOURoIVEnSIX
oEV~nE.nN:EzC77hSIGN>IDDHAMhFRACTI@_DIGIT_Z,O_FOR_OD^POW,S_OF_FOURw@;FOR_OD^POW,S_OF_FOUR
wTWO_FOR_OD^POW,S_OF_FOURxHRE;FOR_OD^POW,S_OF_FOURw@;FOR_EV~_POW,S_OF_FOURwTWO_FOR_EV~_POW,S_OF_FOUR
xHRE;FOR_EV~_POW,S_OF_FOURhSIGN_TUUMUaK=NADA>IGN>PAC:G_C=DRAB:DUnC=DRAB:DUn=USV+AnVIS+GAnSIDDHAM
i|TT,_AqApIqIpUqUpVOC&IC_RxLzC8EpEqEpAIzC92pOqOpAUpKAqHApGAqHApNGApCAqHApJAqHApNYApTTArHApDDArHApNNA
pTAqHApDAqHApNAzCAApPAqHApBAqHApMApYApRAqRApLAqLAzCB5pVApSHAqSAqApHAzCBCiSIGN_NUKTAnAVAGRAHA
iVOWEL>IGN_AAtIuItUuUtVOC&IC_RyIC_RRzCC6tEuEtAIzCCAtOuOtAUiSIGN_VIRAMAzCD5i|NGTH_M+KiAI_|NGTH_M+K
zCDDi|TT,_NAKA+A_POLLUpFAzCE0pVOC&IC_RRxLLiVOWEL>IGN_VOC&IC_LyIC_LLzCE6iDIGIT_Z,Oo@EoTWOpHREEoFOUR
pIVEoSIXpEV~oE.oN:EzCF1iSIGN_JIHVAMULIYAnUPADHM=IYAzD00aM&AY&AM>IGN_COMB::G_=USV+A_ABOVEq=DRAB:DU
p=USV+ApVIS+GAk|TT,_VEDIC_=USV+ArAsArIsIrUsUrVOC&IC_Ry_LzD0ErEsErAIzD12rOsOrAUrKAsHArGAsHArNGArCAsHA
rJAsHArNYArTTAtHArDDAtHArNNArTAsHArDAsHArNAsNNArPAsHArBAsHArMArYArRAsRArLAsLAtLArVArSHAsSAsArHArTTTA
kSIGN_V,TIC&_B+_VIRAMApCIRCUL+_VIRAMApAVAGRAHAkVOWEL>IGN_AAvIwIvUwUvVOC&IC_Ry&IC_RRzD46vEwEvAIzD4AvO
wOvAUkSIGN_VIRAMAk|TT,_DOT_REPHkSIGN_P+AzD54k|TT,_CHILLU_MyYyLLLkAU_|NGTH_M+K
kFRACTI@_@;@E-HUNDRED-=D-SIXTIETHxFORTIETHtTHRE;E.IETHSt@;TW~TIETHy~THtTHRE;TW~TIETHSt@;FIFTH
k|TT,_+CHAIC_IIrVOC&IC_RRy_LLkVOWEL>IGN_VOC&IC_Ly&IC_LLzD66kDIGIT_Z,Oq@EqTWOrHREEqFOURrIVEqSIXrEV~
qE.qN:EkNUMB,_T~r@;HUNDREDvTHOUS=DkFRACTI@_@;QU+T,xH&FtTHRE;QU+T,St@;SIXTE~THxE.HtTHRE;SIXTE~THS
kDAT;M+Kk|TT,_CHILLU_NNyNyRRyLyLLyKzD81aS:H&A>IGN_C=DRAB:DUn=USV+AYAnVIS+GAYAzD85i|TT,_AY=NAqAY=NA
qEY=NArEY=NApIY=NAqIY=NApUY=NAqUY=NApIRUY=NAsUY=NAqLUY=NAsUY=NApEY=NAqEY=NApAIY=NApOY=NAqOY=NA
pAUY=NAzD9AqLPAPRA=A_KAY=NApMAHAAPRA=A_KAY=NAp&PAPRA=A_GAY=NApMAHAAPRA=A_GAY=NApK=TAJA_NAASIKYAYA
pS=YAKA_GAY=NAp&PAPRA=A_CAY=NApMAHAAPRA=A_CAY=NAp&PAPRA=A_JAY=NApMAHAAPRA=A_JAY=NApTA&UJA_NAASIKYAYA
xS=YOOGA_NAAKSIKYAYApS=YAKA_JAY=NAp&PAPRA=A_TTAY=NApMAHAAPRA=A_TTAY=NAp&PAPRA=A_DDAY=NA
pMAHAAPRA=A_DDAY=NAqUURDHAJA_NAY=NApS=YAKA_DDAY=NAp&PAPRA=A_TAY=NApMAHAAPRA=A_TAY=NAp&PAPRA=A_DAY=NA
pMAHAAPRA=A_DAY=NApD=TAJA_NAY=NAzDB3pS=YAKA_DAY=NAp&PAPRA=A_PAY=NApMAHAAPRA=A_PAY=NAp&PAPRA=A_BAY=NA
pMAHAAPRA=A_BAY=NArY=NApAMBA_BAY=NApYAY=NApRAY=NAzDBDpD=TAJA_LAY=NAzDC0pVAY=NApTA&UJA>AY=NA
pMUURDHAJA>AY=NApD=TAJA>AY=NApHAY=NApMUURDHAJA_LAY=NApFAY=NAzDCAiSIGN_&-LAKUNA
zDCFiVOWEL>IGN_AELA-PILLAtKETTI_AEDA-PILLAtDIGA_AEDA-PILLAtKETTI_IS-PILLAtDIGA_IS-PILLA
tKETTI_PAA-PILLAzDD6tDIGA_PAA-PILLAzDD8tGAETTA-PILLAtKOMBUVAtDIGA_KOMBUVAtKOMBU_DEKA
yVA_HAA_AELA-PILLAyVA_HAA_DIGA_AELA-PILLAyVA_HAA_GAY=UKITTAtGAY=UKITTAzDE6iLITH_DIGIT_Z,Ot@EtTWO
uHREEtFOURuIVEtSIXuEV~tE.tN:EzDF2iVOWEL>IGN_DIGA_GAETTA-PILLAyGAY=UKITTAiPUNCTUATI@_KUNDD&IYA
zE01aTHAI_CH+ACT,_KO_KAIqHO_KHAIvUATvWAIv@tRAKH=GpNGO_NGUpCHO_CH=v:Gv=GpSO>OpCHO_CHOEpYO_Y:G
pDO_CHADApTO_PATAKqHO_TH=tN=GM@THOtPHUTHAOpNO_N~pDO_DEKpTO_TAOqHO_THUNGvAH=v@GpNO_NUpBO_BAIMAI
pPO_PLAqHO_PHUNGpFO_FApPHO_PH=pFO_F=pPHO>AMPHAOpMO_MApYO_YAKpRO_RUAqUpLO_L:GqUpWO_WA~pSO>&AsRUSIsSUA
pHO_HIPpLO_CHULApO_=GpHO_NOKHUKpPAIY=NOIpS+A_ApMAI_H=-AKATpS+A_AAvMuIvIuUEwEvvUpPH:THU
zE3FgURR~CY>YMBOL_BAHTgH+ACT,>+A_EuAEuOuAI_MAIMU=yAIM&AIpLAKKH=GYAOpMAIYAMOKsTAIKHUs_EKtTHOuRI
tCHATTAWApTH=THAKHATpNIKHAHITpYAMAKK=pF@GM=fDIGIT_Z,Ol@ElTWOmHREElFOURmIVElSIXmEV~lE.lN:E
fCH+ACT,_=GKH=KHUpKHOMUTzE81aLAO_|TT,_KOmHO>UNGzE84pTAMzE86lP&I_GHAlNGOlCOlP&I_CHAlSO_TAM
zE8ClP&I_JHAlNYOlP&I_NYAqTTAsHAqDDAsHAqNNAlDOlTOmHO>UNGpTAMlP&I_DHAlNOlBOlPOmHO>UNGlFO_TAMlPHO_TAM
lFO>UNGlP&I_BHAlMOlYOlLO_L:GzEA5pOOTzEA7lWOlS=SKRIT>HAvSAmO>UNGlHO>UNGlP&I_LLAlOlHO_TAMeELLIPSIS
eVOWEL>IGN_ApMAI_K=pAAqMpIqIpYqYpUqUeSIGN_P&I_VIRAMAeVOWEL>IGN_MAI_K@eSEMIVOWEL>IGN_LOtNYO
zEC0eVOWEL>IGN_EqIpOpAYqIzEC6eKO_LAzEC8eT@;MAI_EKnTHOoInCATAWAeC=CELLATI@_M+KeNIGGAHITA
zED0eDIGIT_Z,Ok@EkTWOlHREEkFOURlIVEkSIXlEV~kE.kN:EzEDCeHO_NOhMOe|TT,_KHMU_GOqNYO
zF00aTIBET=>YLLABL;OMiM+K_GT,_YIG_MGO_TRUNCATE^AyO_-UM_RNAM_BCA^MAyO_-UM_GT,_TSHEG_MA
n:ITI&_YIG_MGO_MDUN_MAnCLOS:G_YIG_MGO>GAB_MAo+ET_YIG_MGO_PHUR>HA^MAnYIG_MGO_TSHEG>HA^MAnSBRUL>HAD
nBSKUR_YIG_MGOoKA->HOG_YIG_MGOn:T,SYLLABIC_TSHEGnDELIMIT,_TSHEG_BST+nSHADnNYIS>HADnTSHEG>HAD
nNYIS_TSHEG>HADnR:_CH~>PUNGS>HADoGYA_GRAM>HADnC+ET_-DZU^RTAGS_M;L@G_C=nGT,_TSHEG
iLOGOTYP;SIGN_CHA^RTAGSwLHAG_RTAGSiASTROLOGIC&>IGN>GRA_GC=_-CH+_RTAGSyN_-KHYU^PAyN>D@G_TSHUGS
iSIGN_RDEL_DK+_GCIGyNYISySUMsNAG_GCIGxNYISsDK+_RDEL_NAGiDIGIT_Z,Oo@EoTWOpHREEoFOURpIVEoSIXpEV~oE.
oN:EoH&F_@EtTWOuHREEtFOURuIVEtSIXuEV~tE.tN:EtZ,OiM+K_BSDUS_RTAGSnNGAS_BZUNG_NYI_ZLA
nC+ET_-DZU^RTAGS_BZHI_MIG_C=nNGAS_BZUNG>GOR_RTAGSnCH;MGOnTSA_-PHRUnGUG_RTAGS_GY@yYASn=G_KH=G_GY@yYAS
iSIGN_Y+_TSHESnM+_TSHESi|TT,_KAqHApGAqHApNGApCAqHApJAzF49pNYApTTArHApDDArHApNNApTAqHApDAqHApNApPAqHA
pBAqHApMApTSArHApDZArHApWApZHAqAp-ApYApRApLApSHAqSAqApHApApKSSApFIXED-FORM_RApKKApRRA
zF71iVOWEL>IGN_AAtIuItUuUtVOC&IC_RyIC_RRyIC_LyIC_LLtEuEtOuOiSIGN_RJES>U_NGA_ROoNAM_BCAD
iVOWEL>IGN_REV,SE^IySE^IIiSIGN_NYI_ZLA_NAA_DAnSNA_LD=iM+K_H&=TAnP&UTAiSIGN_LCI_RTAGSnY=G_RTAGS
nLC;TSA_C=nMCHU_C=nGRU_C=_RGY:GSrME^RGY:GSn:V,TE^MCHU_C=jUBJO:ED>IGN_LC;TSA_C=xMCHU_C=x:V,TE^MCHU_C=
s|TT,_KAy_KHAy_GAy_GHAy_NGAy_CAy_CHAy_JAzF99y_NYAy_TTAy_TTHAy_DDAy_DDHAy_NNAy_TAy_THAy_DAy_DHAy_NA
y_PAy_PHAy_BAy_BHAy_MAy_TSAy_TSHAy_DZAy_DZHAy_WAy_ZHAy_ZAy_-Ay_YAy_RAy_LAy>HAy>SAy>Ay_HAy_Ay_KSSA
y_FIXED-FORM_WAy_FIXED-FORM_YAy_FIXED-FORM_RAzFBEiKU_RU_KHAr_BZHI_MIG_C=iC=TILLATI@>IGN_HEAVY_BEAT
yN_L._BEATyN_C=G_TE-UyN>BUB_-CH&iSYMBOL_DRIL_BUpRDO_RJEpPADMA_GD=pRDO_RJ;RGYA_GRAMpPHUR_PApNOR_BU
v_NYIS_-KHYILwGSUM_-KHYILwBZHI_-KHYILzFCEjIGN_RDEL_NAG_RDEL_DK+wGSUMiM+K_BSKA->HOG_GI_MGO_RGY=
nMNYAM_YIG_GI_MGO_RGY=nNYIS_TSHEGn:ITI&_BRDA_RNY:G_YIG_MGO_MDUN_MAnCLOS:G_BRDA_RNY:G_YIG_MGO>GAB_MA
aR.-FAC:G>VASTI>IGNa|FT-FAC:G>VASTI>IGNaR.-FAC:G>VASTI>IGN$DOTSa|FT-FAC:G>VASTI>IGN$DOTS
aTIBET=_M+K_|AD:G_MCH=_RTAGSnTRAIL:G_MCH=_RTAGSz1000aMY=M+_|TT,_KAqHApGAqHApNGApCAqHApJAqHApNYAqNYA
pTTArHApDDArHApNNApTAqHApDAqHApNApPAqHApBAqHApMApYApRApLApWApSApHApLLApApSH=_ApIqIpUqUpEpM@_EpOpAU
iVOWEL>IGN_T&L_AAtAAtIuItUuUtEtAItM@_IIxOt;ABOVEiSIGN_=USV+AnDOT_BELOWnVIS+GApRAMAnASAT
iC@S@=T>IGN_MEDI&_YAyEDI&_RAyEDI&_WAyEDI&_HAi|TT,_GREAT>AiDIGIT_Z,Oo@EoTWOpHREEoFOURpIVEoSIXpEV~oE.
oN:EiSIGN_LITTL;SECTI@nSECTI@jYMBOL_LOCATIVEpCOMP|TEDpAFOREM~TI@EDpG~ITIVEi|TT,>HAqSApVOC&IC_RyRxLyL
iVOWEL>IGN_VOC&IC_RyIC_RRyIC_LyIC_LLi|TT,_M@_NGAtJHAtBBAvEiC@S@=T>IGN_M@_MEDI&_NAy@_MEDI&_MA
y@_MEDI&_LAi|TT,>GAW_K+~>HAiVOWEL>IGN>GAW_K+~_EUiT@;M+K>GAW_K+~_HATHIy+~_K;PHO
i|TT,_WEST,N_PWO_K+~_THAyWO_K+~_PWAiVOWEL>IGN_WEST,N_PWO_K+~_EUyRN_PWO_K+~_UE
iSIGN_WEST,N_PWO_K+~_T@E-1y_K+~_T@E-2y_K+~_T@E-3y_K+~_T@E-4y_K+~_T@E-5i|TT,_EAST,N_PWO_K+~_NNA
yWO_K+~_YWAyWO_K+~_GHWAiVOWEL>IGN_GEBA_K+~_ItKAYAH_OEy_Uy_EEi|TT,>H=_KAvHAuGAuCAuZAuNYAuDAuNAuPHAuFA
uBAuTHAuHAiC@S@=T>IGN>H=_MEDI&_WAiVOWEL>IGN>H=_AAyEy;ABOVEyF:&_YiSIGN>H=_T@E-2x3x5x6sCOUNCIL_T@E-2
yL_T@E-3yL_EMPHATIC_T@Ei|TT,_RUMAI_P&AUNG_FAiSIGN_RUMAI_P&AUNG_T@E-5jH=_DIGIT_Z,Ot@EtTWOuHREEtFOUR
uIVEtSIXuEV~tE.tN:EjIGN_KHAMTI_T@E-1y-3iVOWEL>IGN_AIT@_Ay_AIiSYMBOL>H=_@EuEXCLAMATI@aGEORGI=_%!=yB=
yG=yD@y~yV:yZ~yT=y:yK=yLASyM=yN+y@yP+yZH+yRAEyS=yT+yUNyPH+yKH+yGH=yQ+ySH:yCH:yC=yJILyCILyCH+yX=yJH=
yHAEyHEyHIEyWEyH+yHOEz10C7yYNz10CDyA~z10D0j|TT,_=qB=qG=qD@q~qV:qZ~qT=q:qK=qLASqM=qN+q@qP+qZH+qRAEqS=
qT+qUNqPH+qKH+qGH=qQ+qSH:qCH:r=qJILqCILrH+qX=qJH=qHAErErIEqWEqH+rOEqFIqYNqELIFIqTURNE^G=qA:
jP+AGRAPH>EP+ATORaMODIFI,_|TT,_GEORGI=_N+aGEORGI=_|TT,_A~qH+D>IGNqLABI&>IGNaH=GUL_CHOSE@G_KIYEOK
qSS=GKIYEOKqNIEUNqTIKEUTqSS=GTIKEUTqRIEULqMIEUMqPIEUPqSS=GPIEUPrIOSrS=GSIOSqIEUNGqCIEUCqSS=GCIEUC
qCHIEUCHqKHIEUKHqTHIEUTHqPHIEUPHqHIEUHqNIEUN-KIYEOKqSS=GNIEUNqNIEUN-TIKEUTwPIEUPqTIKEUT-KIYEOK
qRIEUL-NIEUNqSS=GRIEULqRIEUL-HIEUHqKAPYEOUNRIEULqMIEUM-PIEUPqKAPYEOUNMIEUMqPIEUP-KIYEOKwNIEUNwTIKEUT
wSIOSyOS-KIYEOKyOS-TIKEUTyOS-PIEUPxS=GSIOSxIOS-CIEUCwCIEUCxHIEUCHwTHIEUTHwPHIEUPHqKAPYEOUNPIEUP
ySS=GPIEUPqSIOS-KIYEOKvNIEUNvTIKEUTvRIEULvMIEUMvPIEUPyUP-KIYEOKvSS=GSIOSvIEUNGvCIEUCwHIEUCHvKHIEUKH
vTHIEUTHvPHIEUPHvHIEUHqCHITUEUMSIOSySS=GSIOSrE@GCHIEUMSIOSyEUMSS=GSIOSqP=SIOSqIEUNG-KIYEOKwTIKEUT
wMIEUMwPIEUPwSIOSwP=SIOSqSS=GIEUNGqIEUNG-CIEUCxHIEUCHwTHIEUTHwPHIEUPHqYESIEUNGqCIEUC-IEUNG
rHITUEUMCIEUCySS=GCIEUCrE@GCHIEUMCIEUCyEUMSS=GCIEUCrHIEUCH-KHIEUKHyHIEUHtTUEUMCHIEUCH
rE@GCHIEUMCHIEUCHqPHIEUPH-PIEUPqKAPYEOUNPHIEUPHqSS=GHIEUHqYEOR:HIEUHqKIYEOK-TIKEUTqNIEUN-SIOSwCIEUC
wHIEUHqTIKEUT-RIEULqFILL,hJUNGSE@G_FILL,rAsErYAtErEOsrYEOtrOrWAtErOErYOrUrWEOtsIrYUrEUrYIrIrA-OtU
rYA-OuYOrEO-OuUuEUrYEO-OvUrO-EOutYEtOtUrYO-YAwEvEOuOuIrU-AuEtEO-EUtYEtUrYU-AuEOvuYEOwuUuIrEU-UuEU
rYI-UrI-AtYAtOtUtEUt+AEAr+AEAw-EOxUxIrSS=G+AEArA-EUrYA-UsEO-YArO-YAvEi@GSE@G_KIYEOKrSS=GKIYEOK
rKIYEOK-SIOSrNIEUNw-CIEUCxHIEUHrTIKEUTrRIEULw-KIYEOKxMIEUMxPIEUPxSIOSxTHIEUTHxPHIEUPHxHIEUHrMIEUM
rPIEUPw-SIOSrSIOSsS=GSIOSrIEUNGrCIEUCsHIEUCHrKHIEUKHrTHIEUTHrPHIEUPHrHIEUHrKIYEOK-RIEULySIOS-KIYEOK
rNIEUN-KIYEOKxTIKEUTxSIOSxP=SIOSxTHIEUTHrTIKEUT-KIYEOKyRIEULrRIEUL-KIYEOK-SIOSxNIEUNxTIKEUT
yIKEUT-HIEUHrSS=GRIEULrRIEUL-MIEUM-KIYEOKyIEUM-SIOSxPIEUP-SIOSyIEUP-HIEUHxKAPYEOUNPIEUPxSS=GSIOS
xP=SIOSxKHIEUKHxYEOR:HIEUHrMIEUM-KIYEOKxRIEULxPIEUPxSIOSyS=GSIOSxP=SIOSxCHIEUCHxHIEUHrKAPYEOUNMIEUM
rPIEUP-RIEULxPHIEUPHxHIEUHrKAPYEOUNPIEUPrSIOS-KIYEOKwTIKEUTwRIEULwPIEUPrP=SIOSrIEUNG-KIYEOK
xSS=GKIYEOKrSS=GIEUNGrIEUNG-KHIEUKHrYESIEUNGyG-SIOSyG-P=SIOSrPHIEUPH-PIEUPrKAPYEOUNPHIEUPH
rHIEUH-NIEUNxRIEULxMIEUMxPIEUPrYEOR:HIEUHrKIYEOK-NIEUNyPIEUPyCHIEUCHyKHIEUKHyHIEUHrSS=GNIEUN
aETHIOPIC>YLLABL;HAtUtItAAtEEutOuAsLAtUtItAAtEEutOtWAsHHAuUuIuAAuEEvuOuWAsMAtUtItAAtEEutOtWAsSZAuUuI
uAAuEEvuOuWAsRAtUtItAAtEEutOtWAsSAtUtItAAtEEutOtWAtHAuUuIuAAuEEvuOuWAsQAtUtItAAtEEutOuAtWAz124AuIuAA
uEEvz1250tHAuUuIuAAuEEvuOz1258uWAz125AvIvAAvEEwz1260sBAtUtItAAtEEutOtWAsVAtUtItAAtEEutOtWAsTAtUtItAA
tEEutOtWAsCAtUtItAAtEEutOtWAsXAtUtItAAtEEutOuAtWAz128AuIuAAuEEvz1290sNAtUtItAAtEEutOtWAtYAuUuIuAAuEE
vuOuWAsGLOTT&_AyL_UyL_IyL_AAyL_EEyL_EyL_OyL_WAsKAtUtItAAtEEutOuAtWAz12B2uIuAAuEEvz12B8tXAuUuIuAAuEEv
uOz12C0uWAz12C2vIvAAvEEwz12C8sWAtUtItAAtEEutOuAsPH+YNGE&_AyGE&_UyGE&_IyGE&_AAyGE&_EEyGE&_EyGE&_O
z12D8sZAtUtItAAtEEutOtWAtHAuUuIuAAuEEvuOuWAsYAtUtItAAtEEutOuAsDAtUtItAAtEEutOtWAtDAuUuIuAAuEEvuOuWA
sJAtUtItAAtEEutOtWAsGAtUtItAAtEEutOuAtWAz1312uIuAAuEEvz1318tGAuUuIuAAuEEvuOuWAAsTHAuUuIuAAuEEvuOuWA
sCHAuUuIuAAuEEvuOuWAsPHAuUuIuAAuEEvuOuWAsTSAuUuIuAAuEEvuOuWAtZAuUuIuAAuEEvuOvAsFAtUtItAAtEEutOtWAsPA
tUtItAAtEEutOtWAsRYAsMYAsFYAz135DjCOMB::G_GEM:ATI@_=^VOWEL_|NGTH_M+KtVOWEL_|NGTH_M+KtGEM:ATI@_M+K
jSECTI@_M+KjWORDSPACEjFULL>TOPjCOMMAjSEMICOL@jCOL@jPREFAC;COL@jQUESTI@_M+KjP+AGRAPH>EP+ATORjDIGIT_@E
pTWOqHREEpFOURqIVEpSIXqEV~pE.pN:EjNUMB,_T~rW~TYrHIRTYqFORTYrIFTYqSIXTYrEV~TYqE.YqN:ETYqHUNDRED
qT~_THOUS=Dz1380jSYLLABL;SEBATBEIT_MWAsMWIuEEvsSEBATBEIT_BWAsBWIuEEvsSEBATBEIT_FWAsFWIuEEv
sSEBATBEIT_PWAsPWIuEEvjT@&_M+K_YIZETuD,ETuRIKRIKuSHORT_RIKRIKuDIFATuK~ATuCHIRETuHIDETuD,ET-HIDET
uKURTz13A0aCH,OKE;|TT,_AqEqIqOqUqVqGAqKAqGErIrOrUrVqHArErIrOrUrVqLArErIrOrUrVqMArErIrOrUqNAqHNAqNAH
rErIrOrUrVqQUAsEsIsOsUsVqSArrErIrOrUrVqDAqTAqDEqTEqDIqTIqDOrUrVrLAqTLAsEsIsOsUsVrSAsEsIsOsUsVqWArErI
rOrUrVqYArErIrOrUrVqMVz13F8jSM&!YExIxOxUxVwMVz1400b=ADI=>YLLABICS_HYPH~tEtAAItIuItOuOtY-CRE;OO
tC+RI,_EEy,_ItAuAtWEvST-CRE;WEuIuEST-CRE;WIuIIuEST-CRE;WIIuOuEST-CRE;WOuOOuEST-CRE;WOOtNASKAPI_WOO
tWAuEST-CRE;WAuAAuEST-CRE;WAAtNASKAPI_WAAtAItY-CRE;WtGLOTT&>TOPtF:&_ACUTEy_GRAVEy_BOTTOM_H&F_R:G
y_TOP_H&F_R:Gy_R._H&F_R:Gy_R:Gy_DOUBL;ACUTEy_DOUBL;SHORT_V,TIC&>TROKESy_MIDDL;DOT
y>HORT_HORIZ@T&>TROKEy_PLUSy_DOWN_TACKt~t:t@t=tPEuAAIuIvIuOvOtY-CRE;POOtC+RI,_HEEy,_HItPAvAuWE
tWEST-CRE;PWEtPWItWEST-CRE;PWItPWIItWEST-CRE;PWIItPWOtWEST-CRE;PWOtPWOOtWEST-CRE;PWOOtPWA
tWEST-CRE;PWAtPWAAtWEST-CRE;PWAAtY-CRE;PWAAtPtWEST-CRE;PtC+RI,_HtTEuAAIuIvIuOvOtY-CRE;TOOtC+RI,_DEE
y,_DItTAvAuWEtWEST-CRE;TWEtTWItWEST-CRE;TWItTWIItWEST-CRE;TWIItTWOtWEST-CRE;TWOtTWOOtWEST-CRE;TWOO
tTWAtWEST-CRE;TWAtTWAAtWEST-CRE;TWAAtNASKAPI_TWAAtTuTEvIvOvAtKEuAAIuIvIuOvOtY-CRE;KOOtKAvAuWE
tWEST-CRE;KWEtKWItWEST-CRE;KWItKWIItWEST-CRE;KWIItKWOtWEST-CRE;KWOtKWOOtWEST-CRE;KWOOtKWA
tWEST-CRE;KWAtKWAAtWEST-CRE;KWAAtNASKAPI_KWAAtKuWtSOUTH-SLAVEY_KEHy-SLAVEY_KIHy-SLAVEY_KOH
y-SLAVEY_KAHtCEuAAIuIvIuOvOtY-CRE;COOtCAvAuWEtWEST-CRE;CWEtCWItWEST-CRE;CWItCWIItWEST-CRE;CWIItCWO
tWEST-CRE;CWOtCWOOtWEST-CRE;CWOOtCWAtWEST-CRE;CWAtCWAAtWEST-CRE;CWAAtNASKAPI_CWAAtCtSAYISI_THtMEuAAI
uIvIuOvOtY-CRE;MOOtMAvAuWEtWEST-CRE;MWEtMWItWEST-CRE;MWItMWIItWEST-CRE;MWIItMWOtWEST-CRE;MWOtMWOO
tWEST-CRE;MWOOtMWAtWEST-CRE;MWAtMWAAtWEST-CRE;MWAAtNASKAPI_MWAAtMtWEST-CRE;MtMHtATHAPASC=_MtSAYISI_M
tNEuAAIuIvIuOvOtY-CRE;NOOtNAvAuWEtWEST-CRE;NWEtNWAtWEST-CRE;NWAtNWAAtWEST-CRE;NWAAtNASKAPI_NWAAu
tC+RI,_NGtNHt|uAAIuIvIuOvOtY-CRE;LOOtLAvAuWEtWEST-CRE;LWEtLWItWEST-CRE;LWItLWIItWEST-CRE;LWIItLWO
tWEST-CRE;LWOtLWOOtWEST-CRE;LWOOtLWAtWEST-CRE;LWAtLWAAtWEST-CRE;LWAAtLtWEST-CRE;LtMEDI&_LtSEuAAIuIvI
uOvOtY-CRE;SOOtSAvAuWEtWEST-CRE;SWEtSWItWEST-CRE;SWItSWIItWEST-CRE;SWIItSWOtWEST-CRE;SWOtSWOO
tWEST-CRE;SWOOtSWAtWEST-CRE;SWAtSWAAtWEST-CRE;SWAAtNASKAPI>WAAtStATHAPASC=>tSWtBLACKFOOT>
tMOOSE-CRE;SKtNASKAPI>KWyPI>-WyPI>PWAyPI>TWAyPI>KWAyPI>CWAtSHEvIwIvOwOvAwAvWEtWEST-CRE;SHWEtSHWI
tWEST-CRE;SHWItSHWIItWEST-CRE;SHWIItSHWOtWEST-CRE;SHWOtSHWOOtWEST-CRE;SHWOOtSHWAtWEST-CRE;SHWAtSHWAA
tWEST-CRE;SHWAAtSHtYEuAAIuIvIuOvOu-CRE;YOOuAvAuWEtWEST-CRE;YWEtYWItWEST-CRE;YWItYWIItWEST-CRE;YWII
tYWOtWEST-CRE;YWOtYWOOtWEST-CRE;YWOOtYWAtWEST-CRE;YWAtYWAAtWEST-CRE;YWAAtNASKAPI_YWAAtYtBIB|-CRE;Y
tWEST-CRE;YtSAYISI_YItREu-CRE;REtWEST-CRE;|tRAAIuIvIuOvOtWEST-CRE;LOtRAvAtWEST-CRE;LAtRWAA
tWEST-CRE;RWAAtRtWEST-CRE;RtMEDI&_RtFEuAAIuIvIuOvOuAvAuWAAtWEST-CRE;FWAAtFtTHEtN-CRE;THEtTHI
tN-CRE;THItTHIItN-CRE;THIItTHOwOvAwAvWAAtWEST-CRE;THWAAtTHuTHEwIwOwAwuYEvIvOvAtNUNAVIK_HEyIK_HI
yIK_HIIyIK_HOyIK_HOOyIK_HAyIK_HAAyIK_HyUT_HtHKtQAAIuIvIuOvOuAvAutTLHEwIwOwAtWEST-CRE;REyCRE;RI
yCRE;ROyCRE;RAtNGAAIvIwIvOwOvAwAvuNGtSAYISI>HEyI>HIyI>HOyI>HAtWOODS-CRE;THEy-CRE;THIy-CRE;THO
y-CRE;THAy-CRE;THtLHIwIvOwOvAwAvtTH-CRE;THEyE;THIyE;THIIyE;THOyE;THOOyE;THAyE;THAAyE;THtAIVILIK_B
tBLACKFOOT_EyFOOT_IyFOOT_OyFOOT_AyFOOT_WEyFOOT_WIyFOOT_WOyFOOT_WAyFOOT_NEyFOOT_NIyFOOT_NOyFOOT_NA
yFOOT_KEyFOOT_KIyFOOT_KOyFOOT_KAtSAYISI_HEyI_HIyI_HOyI_HAtC+RI,_GHUy,_GHOy,_GHEy,_GHEEy,_GHIy,_GHA
y,_RUy,_ROy,_REy,_REEy,_RIy,_RAy,_WUy,_WOy,_WEy,_WEEy,_WIy,_WAy,_HWUy,_HWOy,_HWEy,_HWEEy,_HWIy,_HWA
y,_THUy,_THOy,_THEy,_THEEy,_THIy,_THAy,_TTUy,_TTOy,_TTEy,_TTEEy,_TTIy,_TTAy,_PUy,_POy,_PEy,_PEEy,_PI
y,_PAy,_Py,_GUy,_GOy,_GEy,_GEEy,_GIy,_GAy,_KHUy,_KHOy,_KHEy,_KHEEy,_KHIy,_KHAy,_KKUy,_KKOy,_KKE
y,_KKEEy,_KKIy,_KKAy,_KKy,_NUy,_NOy,_NEy,_NEEy,_NIy,_NAy,_MUy,_MOy,_MEy,_MEEy,_MIy,_MAy,_YUy,_YO
y,_YEy,_YEEy,_YIy,_YAy,_JUtSAYISI_JUtC+RI,_JOy,_JEy,_JEEy,_JItSAYISI_JItC+RI,_JAy,_JJUy,_JJOy,_JJE
y,_JJEEy,_JJIy,_JJAy,_LUy,_LOy,_|y,_|Ey,_LIy,_LAy,_DLUy,_DLOy,_D|y,_D|Ey,_DLIy,_DLAy,_LHUy,_LHO
y,_LHEy,_LHEEy,_LHIy,_LHAy,_TLHUy,_TLHOy,_TLHEy,_TLHEEy,_TLHIy,_TLHAy,_TLUy,_TLOy,_T|y,_T|Ey,_TLI
y,_TLAy,_ZUy,_ZOy,_ZEy,_ZEEy,_ZIy,_ZAy,_Zy,_:ITI&_Zy,_DZUy,_DZOy,_DZEy,_DZEEy,_DZIy,_DZAy,>Uy,>Oy,>E
y,>EEy,>Iy,>Ay,>HUy,>HOy,>HEy,>HEEy,>HIy,>HAy,>Hy,_TSUy,_TSOy,_TSEy,_TSEEy,_TSIy,_TSAy,_CHUy,_CHO
y,_CHEy,_CHEEy,_CHIy,_CHAy,_TTSUy,_TTSOy,_TTSEy,_TTSEEy,_TTSIy,_TTSAuHI>IGNtFULL>TOPtQAItNGAIuNGIxI
wOxOwAxAtWOODS-CRE;THWEEy-CRE;THWIy-CRE;THWIIy-CRE;THWOy-CRE;THWOOy-CRE;THWAy-CRE;THWAAy-CRE;F:&_TH
tBLACKFOOT_WaOGHAM>PAC;M+Kg|TT,_BEITHnLUISnFE+NnSAILnNI@nUATHnDAIRnT:NEnCOLLoEIRTnMU:nGORTnNGEAD&
nSTRAIFnRUISnAILMn@NnURnEADHADHnIODHADHnEABHADHnORnUIL|=NnIF:nEAMH=CHOLLnPEITHgFEATH,_M+K
gREV,SE^FEATH,_M+Kz16A0aRUNIC_|TT,_FEHU_FEOH_F;FnVnURUZ_UR_UnYRonWnTHURISAZ_THURS_THORNnETHn=SUZ_A
nOS_OnAC_AoESCnL@G-BR=CH-OSS_OnSHORT-TWIG-OSS_OnOoEoNnRAIDO_RA^REI^RnKAUNAnC~nKAUN_KnGn~G
nGEBO_GYFU_Go+nWUNJO_WYNN_WnHAGLAZ_HpEGL_HnL@G-BR=CH-HAG&L_HnSHORT-TWIG-HAG&L_HnNAUDIZ_NY^NAU^N
nSHORT-TWIG-NAU^NnDOTTED-NnISAZ_IS_ISS_InEnJ,=_JnG,nL@G-BR=CH-+_AEnSHORT-TWIG-+_AnIWAZ_EOH
nP,THO_PEORTH_Pn&GIZ_EOLHXnSOWILO>oIGEL_L@G-BR=CH-SOL>oHORT-TWIG-SOL>nCnZnTIWAZ_TIR_TYR_T
nSHORT-TWIG-TYR_TnDnB,K==_BEORC_BJ+K=_BnSHORT-TWIG-BJ+K=_BnDOTTED-PnOP~-PnEHWAZ_EH_EnM=NAZ_M=_M
nL@G-BR=CH-MADR_MnSHORT-TWIG-MADR_MnLAUKAZ_LAGU_LOGR_LnDOTTED-Ln:GWAZqnDAGAZ_DAEG_DnOTH&=_ETHEL_OnE+
nIORnCWEORTHo&CoE&CnST=nL@G-BR=CH-YRnSHORT-TWIG-YRnICEL=DIC-YRnQnXgS:GL;PUNCTUATI@
gMULTIPL;PUNCTUATI@gCROSS_PUNCTUATI@g+LAUG>YMBOLgTVIMADUR>YMBOLgBELGTHOR>YMBOLg|TT,_KnSHnOO
nFR=KS_CASKET_OSyET_ISyET_EHyET_ACyET_AESCz1700aTAG&OG_|TT,_ApIpUpKApGApNGApTApDApNApPApBApMApYApRA
pLApWApSApHAiVOWEL>IGN_ItUiSIGN_VIRAMAnPAMUDPODz171Fi|TT,_+CHAIC_RAaH=UNOO_|TT,_ApIpUpKApGApNGApTA
pDApNApPApBApMApYApRApLApWApSApHAiVOWEL>IGN_ItUiSIGN_PAMUDPODaPHILIPP:;S:GL;PUNCTUATI@
lDOUBL;PUNCTUATI@z1740aBUHI^|TT,_AnInUnKAnGAnNGAnTAnDAnNAnPAnBAnMAnYAnRAnLAnWAnSAnHAgVOWEL>IGN_IrU
z1760aTAGB=WA_|TT,_AqIqUqKAqGAqNGAqTAqDAqNAqPAqBAqMAqYAz176EqLAqWAqSAz1772jVOWEL>IGN_IuU
z1780aKHM,_|TT,_KAoHAoOoHOnNGOnCAoHAoOoHOnNYOnDAnTTHAnDOnTTHOnNNOnTAoHAoOoHOnNOnBAnPHAoOoHOnMOnYOnRO
nLOnVOnSHAoSOoAnHAnLAnQAg:DEP~D~T_VOWEL_QAQyQAAyQIyQIIyQUyQUKyQUUyQUUVyRYyRYYyLYyLYYyQEyQAI
yQOO_TYP;@EyQOO_TYP;TWOyQAUgVOWEL_:H,~T_AQwAmSIGN_AArIsIrYsYrUsUsArOErYArIErErAEsIrOOrAU
gSIGN_NIKAHITlREAHMUKlYUUK&EAP:TUlMUUSIKATO=lTRIISAPlB=TOClROBATlTO=DAKHIATlKAKABATlAHSDA
lSAMYOK>=NYAlVIRIAMlCO~GlBATHAMASATlKH=lB+IYOOS=lCAMNUC_PII_KUUHl|K_TOOlBEYY&lPHNAEK_MU=lKOOMUUT
gCURR~CY>YMBOL_RIELgSIGN_AVAKRAHAS=YAmTTHAC=z17E0gDIGIT_Z,Om@EmTWOnHREEmFOURnIVEmSIXnEV~mE.mN:E
z17F0gSYMBOL_|K_ATTAK>@xMUOYxPIIxBEIyU@xPRAMyRAM-MUOYyRAM-PIIyRAM-BEIyRAM-BU@z1800aM@GOLI=_BIRGA
kELLIPSISkCOMMAkFULL>TOPkCOL@kFOUR_DOTSkTODO>OFT_HYPH~kSIB;SYLLABL;BOUND+Y_M+K,kM=CHU_COMMArFULL>TOP
kNIRUGUkFRE;V+IATI@>E|CTOR_@Ey>E|CTOR_TWOy>E|CTOR_THREEkVOWEL>EP+ATORkFRE;V+IATI@>E|CTOR_FOUR
kDIGIT_Z,Oq@EqTWOrHREEqFOURrIVEqSIXrEV~qE.qN:Ez1820k|TT,_ArErIrOrUrOErUErEErNAr=GrBArPArQArGArMArLA
rSAsHArTArDArCHArJArYArRArWArFArKAsHArTSArZArHAArZRArLHArZHIrCHIrTODO_L@G_VOWEL>IGNwEwIwOwUwOEwUEw=G
wBAwPAwQAwGAwMAwTAwDAwCHAwJAwTSAwYAwWAwKAwGAAwHAAwJIAwNIAwDZArSIB;EwIxYwUExw=GwKAwGAwHAwPAwSHAwTAwDA
wJAwFAwGAAwHAAwTSAwZAwRAAwCHAwZHArM=CHU_IyKAyRAyFAyZHArCHA$TWO_DOTSz1880r&I_G&I_=USV+A_@E
yI_VIS+GA_@EyI_DAM+UyI_UBADAMAyI_:V,TE^UBADAMAyI_B&UDAyI_THRE;B&UDAyI_AyI_IyI_KAyI_NGAyI_CAyI_TTA
yI_TTHAyI_DDAyI_NNAyI_TAyI_DAyI_PAyI_PHAyI>SAyI_ZHAyI_ZAyI_AHrTODO_&I_G&I_TAyI_G&I_ZHA
rM=CHU_&I_G&I_GHAy&I_G&I_NGAy&I_G&I_CAy&I_G&I_JHAy&I_G&I_TTAy&I_G&I_DDHAy&I_G&I_TAy&I_G&I_DHA
y&I_G&I>SAy&I_G&I_CYAy&I_G&I_ZHAy&I_G&I_ZAr&I_G&I_H&F_UyI_H&F_YArM=CHU_&I_G&I_BHAr&I_G&I_DAG&GA
rM=CHU_&I_G&I_LHAz18B0aC=ADI=>YLLABICS_OYtAYuAYtWAYtPOYuAYuWOYtTAYtKAYuWAYtMAYtNOYuAYtLAYtSOYuAYuHOY
vAYvWOYtYOYuAYtRAYtNWItOJIBWAY_NWItNWIItOJIBWAY_NWIItNWOtOJIBWAY_NWOtNWOOtOJIBWAY_NWOOtRWEEvIwIvOwO
vAtOJIBWAY_PyAY_TyAY_KyAY_CyAY_MyAY_NyAY>yAY>HtEAST,N_WtWEST,N_WtF:&>M&L_R:Gy_RAISE^DOTtR-CRE;RWE
tWEST-CRE;LOOyCRE;LAAtTHWEwAuTHWEwOOwAAuLHWEwOOtSAYISI>HWEyI>HOOyI_HOOtC+RI,_GWUy,_D~;GEEy,_GAA
y,_GWAtSAYISI_JUUtC+RI,_JWAtBEAV,_D~;LyR_D~;RtC+RI,_D~T&>z1900aLIMBU_VOWEL-C+RI,_|TT,g|TT,_KAoHAnGA
oHAnNGAnCAoHAnJAoHAnY=nTAoHAnDAoHAnNAnPAoHAnBAoHAnMAnYAnRAnLAnWAnSHAoSAoAnHAnGY=nTRA
z1920gVOWEL>IGN_ArIrUrEErAIrOOrAUrErOgSUBJO:E^|TT,_YAxRAxWAz1930hM&!KAtNGAt=USV+AtTAtNAtPAtMAtRAtLA
hIGN_MUKPHR~GlKEMPHR~GlSA-Iz1940lLOOz1944gEXCLAMATI@_M+KgQUESTI@_M+KgDIGIT_Z,Om@EmTWOnHREEmFOURnIVE
mSIXnEV~mE.mN:EaTAI_L;|TT,_KAoXAoNGAoTSAoSAoYAoTApHAoLAoPApHAoMAoFAoVAoHAoQAoKHAoTSHAoNAoAoIoEEpHoU
oOOpoUEoEoAUEpIz1970oT@E-2t3t4t5t6z1980aNEW_TAI_LU;|TT,_HIGH_QAtLOW_QAtHIGH_KAyXAyNGAtLOW_KAxXAxNGA
tHIGH_TSAySAyYAtLOW_TSAxSAxYAtHIGH_TAyTHAyNAtLOW_TAyHAxNAtHIGH_PAyPHAyMAtLOW_PAyHAxMAtHIGH_FAyVAyLA
tLOW_FAxVAxLAtHIGH_HAyDAyBAtLOW_HAxDAxBAtHIGH_KVAyXVAtLOW_KVAxXVAtHIGH>UAtLOW>UA
z19B0mVOWEL>IGN_VOWEL>HORT~,xAAxIIxUyUxExAExOyAxUExAYyAYxUYxOYyAYxUEYxIYm|TT,_F:&_Vy_NGy_Ny_My_Ky_D
y_BmT@;M+K-1w2z19D0mDIGIT_Z,Os@EsTWOtHREEsFOURtIVEsSIXtEV~sE.sN:EmTHAM_DIGIT_@Ez19DEmSIGN_LAEuV
aKHM,>YMBOL_PATHAMASATnMUOY_KOETnPII_KOETnBEI_KOEToU@_KOETnPRAM_KOETr-MUOY_KOETsPII_KOETsBEI_KOET
tU@_KOETnDAP_KOETq-MUOY_KOETrPII_KOETrBEI_KOETsU@_KOETrPRAM_KOETnTUTEYASATnMUOY_ROCnPII_ROCnBEI_ROC
oU@_ROCnPRAM_ROCr-MUOY_ROCsPII_ROCsBEI_ROCtU@_ROCnDAP_ROCq-MUOY_ROCrPII_ROCrBEI_ROCsU@_ROCrPRAM_ROC
aBUG:ES;|TT,_KAqGAqNGAsKAqPAqBAqMArPAqTAqDAqNArRAqCAqJAqNYAsCAqYAqRAqLAqVAqSAqAqHAjVOWEL>IGN_IuUuEuO
uAEz1A1EjP&LAWAj~^OF>ECTI@aTAI_THAM_|TT,_HIGH_KAwHAwXAqLOW_KAvXAvHAqNGAqHIGH_CAwHAqLOW_CAuSAuCHAqNYA
qRATAqHIGH_RATHAqDAqLOW_RATHAqR=AqHIGH_TAwHAqLOW_TAvHAqNAqBAqHIGH_PAwHAvFAqLOW_PAuFAuPHAqMAqLOW_YA
qHIGH_YAqRArUEqLArUEqWAqHIGH>HAwSAwAvHAqLLAqAqLOW_HAqIrIqUrUqEEqOOqLAEqGREAT>AjC@S@=T>IGN_MEDI&_RA
yMEDI&_LAyLA_T=G_LAIjSIGN_MAI_K=G_LAIjC@S@=T>IGN_F:&_NGAyLOW_PAyHIGH_RATHA_OR_LOW_PAyMAyBAySA
z1A60jSIGN>AKOTjVOWEL>IGN_AuMAI>ATuAAuT&L_AAuIvIuUEvUEvvUuOvA_BELOWvYuEuAEuOOuAIuTHAM_AIuOA_ABOVE
jSIGN_MAI_K=GoT@E-1t2oKHU~_T@E-3y-4y-5oRA_HAAMoMAI>AMoKHU~-LU;K+=z1A7FjCOMB::G_CRYPTOGRAMMIC_DOT
jHORA_DIGIT_Z,Ou@EuTWOvHREEuFOURvIVEuSIXvEV~uE.uN:Ez1A90jTHAM_DIGIT_Z,Ou@EuTWOvHREEuFOURvIVEuSIXvEV~
uE.uN:Ez1AA0jSIGN_WI=GtWAAKoSAW=oKEOWoHOYoDOKMAIoREV,SE^ROTATE^R=AoMAI_YAMOKoKA=sKUUoSATKA=vKUUoH=G
oCA=Gz1AB0aCOMB::G_DOUB|^CIRCUMF|X_ACC~TlIA,ESIS-R:Gk:F:ITYkDOWNW+DS_+ROWkTRIPL;DOTkX-X_BELOW
kWIGGLY_L:;BELOWkOP~_M+K_BELOWkDOUBL;OP~_M+K_BELOWkL._C~TR&IZATI@>TROK;BELOW
kSTR@G_C~TR&IZATI@>TROK;BELOWkP+~THESES_ABOVEkDOUBL;P+~THESES_ABOVEkP+~THESES_BELOWwOV,LAY
kLAT:>M&!W_BELOWyTT,_TURNE^W_BELOWlEFT_P+~THESIS_ABOV;|FTkR._P+~THESIS_ABOV;R.
k|FT_P+~THESIS_BELOW_|FTkR._P+~THESIS_BELOW_R.kSQU+;BRACKETS_ABOVEkNUMB,>IGN_ABOVE
k:V,TE^DOUBL;+CH_ABOVEkPLUS>IGN_ABOVEkDOUBL;PLUS>IGN_ABOVEyGN_BELOWkTRIPL;ACUT;ACC~TkLAT:>M&!:SUL+_G
yTT,_:SUL+_RyTT,_:SUL+_Tz1B00aB&:ES;SIGN_ULU_RICEMsC=DRAoCECEKoSUR=GoBISAHj|TT,_AK+Av_TEDUNGqIK+A
v_TEDUNGqUK+Av_TEDUNGqRA_REPAx_TEDUNGqLA_|NGAy_TEDUNGqEK+AqAIK+AqOK+Av_TEDUNGqKAs_MAHAPR=AqGAs_GORA
qNGAqCAs_LACAqJAs_J,AqNYAqTA_LATIKtMURDA_MAHAPR=AqDA_MURDA_&PAPR=Ay_MAHAPR=AqNA_RAMBATqTAs_TAWAqDA
s_MADUqNAqPAs_KAP&qBAs_KEMB=GqMAqYAqRAqLAqWAqSA>AGAvPAsqHAjSIGN_R,EK=jVOWEL>IGN_TEDUNGuULUx>+IuSUKU
y_ILUTuRA_REPAyEPA_TEDUNGuLA_|NGAy~GA_TEDUNGuT&:GyNG_REPAyNG_TEDUNGyNG_REPA_TEDUNGuPEPETyT_TEDUNG
jADEG_ADEGj|TT,_KAF>ASAKrHOT>ASAKqTZIR>ASAKqEF>ASAKqV;SASAKqZ&>ASAKqASYURA>ASAKrRCHAIC_JNYA
z1B50jDIGIT_Z,Op@EpTWOqHREEpFOURqIVEpSIXqEV~pE.pN:EjP=TIlMADAjW:DUjC+IK_PAMUNGKAHpSIKIpP+,~jPAM~~G
jMUSIC&>YMBOL_D@GyD~GyDUNGyD=GyD=G>UR=GyD:GyDA~GyDEUNGyDA:GyD=G_GEDEyCOMB::G_TEGEHyCOMB::G_~DEP
yCOMB::G_KEMPULyCOMB::G_KEMPLIyCOMB::G_JEGOG=yCOMB::G_KEMPUL$JEGOG=yCOMB::G_KEMPLI$JEGOG=
yCOMB::G_B~DEyCOMB::G_G@GyR.-H=^OP~_DUGyR.-H=^OP~_DAGyR.-H=^CLOSE^TUKyR.-H=^CLOSE^TAKy|FT-H=^OP~_P=G
y|FT-H=^OP~_PUNGy|FT-H=^CLOSE^PLAKy|FT-H=^CLOSE^PLUKy|FT-H=^OP~_P:GjP=TI_L=T=GlMADA_L=T=G
z1B80aSUND=ES;SIGN_P=YECEKsGLAY+tWISADk|TT,_ArIrUrAErOrEsUrKArQArGArNGArCArJArZArNYArTArDArNArPArFA
rVArBArMArYArRArLArWArSArXArHAkC@S@=T>IGN_PAM:GK&y_P=YAKRAy_P=YIKUkVOWEL>IGN_P=GHULUyYUKUyAELA~G
yOL@GxMEPETxNEU|UNGkSIGN_PAMAAEHpVIRAMAkC@S@=T>IGN_PAS=G=_MAy_PAS=G=_WAk|TT,_KHArSYAkDIGIT_Z,Oq@E
qTWOrHREEqFOURrIVEqSIXrEV~qE.qN:EkAVAGRAHAk|TT,_REUr|UrBHArF:&_KxMaBATAK_|TT,_AnSIM&UNGUN_AnHA
nSIM&UNGUN_HAnM=DAIL:G_HAnBAnK+O_BAnPAnSIM&UNGUN_PAnNAnM=DAIL:G_NAnWAnSIM&UNGUN_WAnPAKPAK_WAnGA
nSIM&UNGUN_GAnJAnDAnRAnSIM&UNGUN_RAnMAnSIM&UNGUN_MAoOUTH,N_TAnNORTH,N_TAnSAoIM&UNGUN>AnM=DAIL:G>AnYA
nSIM&UNGUN_YAnNGAnLAnSIM&UNGUN_LAnNYAnCAnNDAnMBAnInUgSIGN_TOMPIgVOWEL>IGN_ErPAKPAK_ErEErIrK+O_IrO
rK+O_OrUs_FOR>IM&UNGUN>AgC@S@=T>IGN_NGvHgP=GOLATj@G@=z1BFCgSYMBOL_B:DU_NA_METEKtP:+BORAStJUDUL
tP=GOLATa|PCHA_|TT,_KApLApHAoGApLAoNGAoCApHAoJAoNYAoTApHAoDAoNAoPApLApHAoFApLAoBApLAoMApLAoTSAqHA
oDZAoYAoRAoLAoHApLAoVAoSApHAoWAoAhSUBJO:E^|TT,_YAyRAhVOWEL>IGN_AAsIsOtOsUtUsEhC@S@=T>IGN_KwMwLwNwPwR
wTwNY:-DOwK=GhSIGN_R=mNUKTAz1C3BhPUNCTUATI@_TA-ROLtNYET_THYOOM_TA-ROLtC,-WAtTSHOOK_C,-WAyKhDIGIT_Z,O
n@EnTWOoHREEnFOURoIVEnSIXoEV~nE.nN:Ez1C4Dh|TT,_TTAqHAoDDAaOL_CHIKI_DIGIT_Z,Op@EpTWOqHREEpFOURqIVE
pSIXqEV~pE.pN:Ej|TT,_LAqATrGrNGrLqLAAqAAKsJsMsWqLIqISrHrNYrRqLUqUCrDrNNrYq|qEPrDDrNrRRqLOqOTTrBrVrH
jMU_TTUDDAGjGAAHLAA_TTUDDAAGjMU-GAAHLAA_TTUDDAAGjRELAAjPHA+KAAjAHADjPUNCTUATI@_MUCAADvDOUBL;MUCAAD
aCYRILLIC>M&!ROUNDE^VEwL@G-|GGE^DEwN+ROW_OwWID;ESwT&L_TExHREE-|GGE^TEx&L_H+D>IGNyLL_YATwUNB|NDE^UK
z1C90aGEORGI=_MTAVRULI_%!=y!B=y!G=y!D@y!~y!V:y!Z~y!T=y!:y!K=y!LASy!M=y!N+y!@y!P+y!ZH+y!RAEy!S=y!T+
y!UNy!PH+y!KH+y!GH=y!Q+y!SH:y!CH:y!C=y!JILy!CILy!CH+y!X=y!JH=y!HAEy!HEy!HIEy!WEy!H+y!HOEy!FIy!YN
y!ELIFIy!TURNE^G=y!A:z1CBDy!A~y!H+D>IGNy!LABI&>IGNaSUND=ES;PUNCTUATI@_B:DU>URYAyNDU_P=GL@G
yNDU_PURNAMAyNDU_CAKRAyNDU_|U>AT=GAyNDU_KA>AT=GAyNDU_DA>AT=GAyNDU_BA>AT=GAz1CD0aVEDIC_T@;K+SH=AlSH+A
lPR~KHAgSIGN_NIHSHVASAlYAJURVEDIC_MIDL:;SV+ITAgT@;YAJURVEDIC_AGGRAVATE^:DEP~D~T>V+ITAw:DEP~D~T>V+ITA
wKATHAKA_:DEP~D~T>V+ITAlC=DRA_BELOWlYAJURVEDIC_KATHAKA_:DEP~D~T>V+ITA>CHROED,lDOUBL;SV+ITA
lTRIPL;SV+ITAlKATHAKA_=UDATTAlDOT_BELOWlTWO_DOTS_BELOWmHRE;DOTS_BELOW
lRIGVEDIC_KASHMIRI_:DEP~D~T>V+ITAlATH+VAVEDIC_:DEP~D~T>V+ITAgSIGN_VIS+GA>V+ITAtUDATTA
lREV,SE^VIS+GA_UDATTAlVIS+GA_=UDATTAlREV,SE^VIS+GA_=UDATTAlVIS+GA_UDATTA$TAILt=UDATTA$TAIL
l=USV+A_=T+GOMUKHAuBAHIRGOMUKHAuVAMAGOMUKHAyGOMUKHA$TAILlTIRYAKlHEXIFORM_L@G_=USV+AlL@G_=USV+A
lRTH=G_L@G_=USV+Al=USV+A_UBHAYATO_MUKHAmRDHAVIS+GAlROTATE^+DHAVIS+GAgT@;C=DRA_ABOVEgSIGN_JIHVAMULIYA
lUPADHM=IYAlATIKRAMAgT@;R:G_ABOVElDOUBL;R:G_ABOVEgSIGN_DOUBL;=USV+A_=T+GOMUKHA
z1D00aLAT:_|TT,>M&L_%L_Ay&_AEgSM&!TURNE^AEg|TT,>M&L_%L_B+RE^By&_Cy&_Dy&_ETHy&_EgSM&!TURNE^OP~_Ey^I
g|TT,>M&L_%L_Jy&_Ky&_L$STROKEy&_My&_REV,SE^Ny&_Oy&_OP~_OgSM&!SIDEWAYS_OyAYS_OP~_OyAYS_O$STROKE
tTURNE^OEg|TT,>M&L_%L_OUgSM&!TOP_H&F_OtBOTTOM_H&F_Og|TT,>M&L_%L_Py&_REV,SE^Ry&_TURNE^Ry&_Ty&_U
gSM&!SIDEWAYS_UyAYS_DIA,ESIZE^UyAYS_TURNE^Mg|TT,>M&L_%L_Vy&_Wy&_Zy&_EZHnVOICE^L+YNGE&>PIR=TnA:
aGREEK_|TT,>M&L_%L_GAMMAy&_LAMDAy&_PIy&_RHOy&_PSIaCYRILLIC_|TT,>M&L_%L_ELaMODIFI,_|TT,_%L_AyAEyB
yB+RE^ByDyEyREV,SE^EyGyHyIyJyKyLyMyNyREV,SE^NyOyOUyPyRyTyUyWqSM&L_AwTURNE^Aw&PHAwTURNE^AEwBwDwE
wSCHWAwOP~_EwTURNE^OP~_EwGwTURNE^IwKwMw~GwOxP~_OwTOP_H&F_OwBOTTOM_H&F_OwPwTwUwSIDEWAYS_UwTURNE^MwV
wA:wBETAwGREEK_GAMMAwDELTAwGREEK_PHIwCHIaLAT:>UBSCRIPT>M&!IyTT,_RyTT,_UyTT,_VaGREEK>UBSCRIPT>M&!BETA
yTT,_GAMMAyTT,_RHOyTT,_PHIyTT,_CHIaLAT:>M&!UEtB$MIDDL;TILDEtD$MIDDL;TILDEtF$MIDDL;TILDE
tM$MIDDL;TILDEtN$MIDDL;TILDEtP$MIDDL;TILDEtR$MIDDL;TILDEyH_FISHHOOK_=^MIDDL;TILDEtS$MIDDL;TILDE
tT$MIDDL;TILDEtZ$MIDDL;TILDEtTURNE^GaMODIFI,_|TT,_CYRILLIC_~aLAT:>M&!:SUL+_GtTH$STRIKETHROUGH
m%!I$STROKEm|TT,_IOTA$STROKEtP$STROKEm%!U$STROKEm|TT,_UPSIL@$STROKEtB$P&AT&_HOOKtD$P&AT&_HOOK
tF$P&AT&_HOOKtG$P&AT&_HOOKtK$P&AT&_HOOKtL$P&AT&_HOOKtM$P&AT&_HOOKtN$P&AT&_HOOKtP$P&AT&_HOOK
tR$P&AT&_HOOKtS$P&AT&_HOOKtESH$P&AT&_HOOKtV$P&AT&_HOOKtX$P&AT&_HOOKtZ$P&AT&_HOOKtA$RETROF|X_HOOK
uLPHA$RETROF|X_HOOKtD$HOOK_=^TAILtE$RETROF|X_HOOKtOP~_E$RETROF|X_HOOKtREV,SE^OP~_E$RETROF|X_HOOK
tSCHWA$RETROF|X_HOOKtI$RETROF|X_HOOKtOP~_O$RETROF|X_HOOKtESH$RETROF|X_HOOKtU$RETROF|X_HOOK
tEZH$RETROF|X_HOOKaMODIFI,_|TT,>M&L_TURNE^&PHAwCx$CURLwETHwREV,SE^OP~_EwFwDOT|SS_J$STROKEwSCRIPT_G
wTURNE^HwI$STROKExOTAw%L_IyPIT&_I$STROKEwJ$CROSSED-TAILwL$RETROF|X_HOOKyWITH_P&AT&_HOOKw%L_LwM$HOOK
wTURNE^M$L@G_|GwN$|FT_HOOKyWITH_RETROF|X_HOOKw%L_NwB+RE^OwPHIwS$HOOKwESHwT$P&AT&_HOOKwU_B+xPSIL@
w%L_UwV$HOOKwTURNE^VwZx$RETROF|X_HOOKyWITH_CURLwEZHwTHETAaCOMB::G_DOTTE^GRAV;ACC~TrACUT;ACC~T
kSNAK;BELOWlUSP~SI@_M+KkMACR@-ACUTEkGRAVE-MACR@kMACR@-GRAVEkACUTE-MACR@kGRAVE-ACUTE-GRAVE
kACUTE-GRAVE-ACUTEkLAT:>M&!R_BELOWkBREVE-MACR@kMACR@-BREVEkDOUBL;CIRCUMF|X_ABOVEkOG@EK_ABOVE
kZIGZAG_BELOWkIS_BELOWkUR_ABOVElS_ABOVEkLAT:>M&!FLATT~E^OP~_A_ABOVEyTT,_AEyTT,_AOyTT,_AV
yTT,_C_CEDILLAyTT,_:SUL+_DyTT,_ETHyTT,_Gq|TT,>M&L_%L_GqSM&!KyTT,_Lq|TT,>M&L_%L_LyM&L_%L_MqSM&!N
q|TT,>M&L_%L_NyM&L_%L_RqSM&!R_ROTUNDAyTT,>yTT,_L@G>yTT,_ZyTT,_&PHAyTT,_ByTT,_BETAyTT,>CHWAyTT,_F
yTT,_L$DOUBL;MIDDL;TILDEyTT,_O$L._C~TR&IZATI@>TROKEyTT,_PyTT,_ESHyTT,_U$L._C~TR&IZATI@>TROKEyTT,_W
yTT,_A$DIA,ESISyTT,_O$DIA,ESISyTT,_U$DIA,ESISkUP_TACK_ABOVEkKAVYKA_ABOV;R.x|FTkDOT_ABOV;|FT
kWID;:V,TE^BRIDG;BELOWkDOT_BELOW_|FTlE|TI@_M+KlOUBL;:V,TE^BREV;BELOWk&MOST_EQU&_TO_BELOW
k|FT_+ROWHEA^ABOVEkR._+ROWHEA^=^DOWN_+ROWHEA^BELOWaLAT:_%!A$R:G_BELOWgSM&!A$R:G_BELOWg%!B$DOT_ABOVE
gSM&!B$DOT_ABOVEg%!B$DOT_BELOWgSM&!B$DOT_BELOWg%!B$L:;BELOWgSM&!B$L:;BELOWg%!C$CEDILLA_=^ACUTE
gSM&!C$CEDILLA_=^ACUTEg%!D$DOT_ABOVEgSM&!D$DOT_ABOVEg%!D$DOT_BELOWgSM&!D$DOT_BELOWg%!D$L:;BELOW
gSM&!D$L:;BELOWg%!D$CEDILLAgSM&!D$CEDILLAg%!D$CIRCUMF|X_BELOWgSM&!D$CIRCUMF|X_BELOW
g%!E$MACR@_=^GRAVEgSM&!E$MACR@_=^GRAVEg%!E$MACR@_=^ACUTEgSM&!E$MACR@_=^ACUTEg%!E$CIRCUMF|X_BELOW
gSM&!E$CIRCUMF|X_BELOWg%!E$TILD;BELOWgSM&!E$TILD;BELOWg%!E$CEDILLA_=^BREVEgSM&!E$CEDILLA_=^BREVE
g%!F$DOT_ABOVEgSM&!F$DOT_ABOVEg%!G$MACR@gSM&!G$MACR@g%!H$DOT_ABOVEgSM&!H$DOT_ABOVEg%!H$DOT_BELOW
gSM&!H$DOT_BELOWg%!H$DIA,ESISgSM&!H$DIA,ESISg%!H$CEDILLAgSM&!H$CEDILLAg%!H$BREV;BELOW
gSM&!H$BREV;BELOWg%!I$TILD;BELOWgSM&!I$TILD;BELOWg%!I$DIA,ESIS_=^ACUTEgSM&!I$DIA,ESIS_=^ACUTE
g%!K$ACUTEgSM&!K$ACUTEg%!K$DOT_BELOWgSM&!K$DOT_BELOWg%!K$L:;BELOWgSM&!K$L:;BELOWg%!L$DOT_BELOW
gSM&!L$DOT_BELOWg%!L$DOT_BELOW_=^MACR@gSM&!L$DOT_BELOW_=^MACR@g%!L$L:;BELOWgSM&!L$L:;BELOW
g%!L$CIRCUMF|X_BELOWgSM&!L$CIRCUMF|X_BELOWg%!M$ACUTEgSM&!M$ACUTEg%!M$DOT_ABOVEgSM&!M$DOT_ABOVE
g%!M$DOT_BELOWgSM&!M$DOT_BELOWg%!N$DOT_ABOVEgSM&!N$DOT_ABOVEg%!N$DOT_BELOWgSM&!N$DOT_BELOW
g%!N$L:;BELOWgSM&!N$L:;BELOWg%!N$CIRCUMF|X_BELOWgSM&!N$CIRCUMF|X_BELOWg%!O$TILD;=^ACUTE
gSM&!O$TILD;=^ACUTEg%!O$TILD;=^DIA,ESISgSM&!O$TILD;=^DIA,ESISg%!O$MACR@_=^GRAVEgSM&!O$MACR@_=^GRAVE
g%!O$MACR@_=^ACUTEgSM&!O$MACR@_=^ACUTEg%!P$ACUTEgSM&!P$ACUTEg%!P$DOT_ABOVEgSM&!P$DOT_ABOVE
g%!R$DOT_ABOVEgSM&!R$DOT_ABOVEg%!R$DOT_BELOWgSM&!R$DOT_BELOWg%!R$DOT_BELOW_=^MACR@
gSM&!R$DOT_BELOW_=^MACR@g%!R$L:;BELOWgSM&!R$L:;BELOWg%!S$DOT_ABOVEgSM&!S$DOT_ABOVEg%!S$DOT_BELOW
gSM&!S$DOT_BELOWg%!S$ACUT;=^DOT_ABOVEgSM&!S$ACUT;=^DOT_ABOVEg%!S$C+@_=^DOT_ABOVE
gSM&!S$C+@_=^DOT_ABOVEg%!S$DOT_BELOW_=^DOT_ABOVEgSM&!S$DOT_BELOW_=^DOT_ABOVEg%!T$DOT_ABOVE
gSM&!T$DOT_ABOVEg%!T$DOT_BELOWgSM&!T$DOT_BELOWg%!T$L:;BELOWgSM&!T$L:;BELOWg%!T$CIRCUMF|X_BELOW
gSM&!T$CIRCUMF|X_BELOWg%!U$DIA,ESIS_BELOWgSM&!U$DIA,ESIS_BELOWg%!U$TILD;BELOWgSM&!U$TILD;BELOW
g%!U$CIRCUMF|X_BELOWgSM&!U$CIRCUMF|X_BELOWg%!U$TILD;=^ACUTEgSM&!U$TILD;=^ACUTEg%!U$MACR@_=^DIA,ESIS
gSM&!U$MACR@_=^DIA,ESISg%!V$TILDEgSM&!V$TILDEg%!V$DOT_BELOWgSM&!V$DOT_BELOWg%!W$GRAVEgSM&!W$GRAVE
g%!W$ACUTEgSM&!W$ACUTEg%!W$DIA,ESISgSM&!W$DIA,ESISg%!W$DOT_ABOVEgSM&!W$DOT_ABOVEg%!W$DOT_BELOW
gSM&!W$DOT_BELOWg%!X$DOT_ABOVEgSM&!X$DOT_ABOVEg%!X$DIA,ESISgSM&!X$DIA,ESISg%!Y$DOT_ABOVE
gSM&!Y$DOT_ABOVEg%!Z$CIRCUMF|XgSM&!Z$CIRCUMF|Xg%!Z$DOT_BELOWgSM&!Z$DOT_BELOWg%!Z$L:;BELOW
gSM&!Z$L:;BELOWtH$L:;BELOWtT$DIA,ESIStW$R:G_ABOVEtY$R:G_ABOVEtA$R._H&F_R:GtL@G>$DOT_ABOVE
yS$DIAG@&>TROKEyS$HIGH>TROKEg%!SH+P>gSM&!DELTAg%!A$DOT_BELOWgSM&!A$DOT_BELOWg%!A$HOOK_ABOVE
gSM&!A$HOOK_ABOVEg%!A$CIRCUMF|X_=^ACUTEgSM&!A$CIRCUMF|X_=^ACUTEg%!A$CIRCUMF|X_=^GRAVE
gSM&!A$CIRCUMF|X_=^GRAVEg%!A$CIRCUMF|X_=^HOOK_ABOVEgSM&!A$CIRCUMF|X_=^HOOK_ABOVE
g%!A$CIRCUMF|X_=^TILDEgSM&!A$CIRCUMF|X_=^TILDEg%!A$CIRCUMF|X_=^DOT_BELOWgSM&!A$CIRCUMF|X_=^DOT_BELOW
g%!A$BREV;=^ACUTEgSM&!A$BREV;=^ACUTEg%!A$BREV;=^GRAVEgSM&!A$BREV;=^GRAVEg%!A$BREV;=^HOOK_ABOVE
gSM&!A$BREV;=^HOOK_ABOVEg%!A$BREV;=^TILDEgSM&!A$BREV;=^TILDEg%!A$BREV;=^DOT_BELOW
gSM&!A$BREV;=^DOT_BELOWg%!E$DOT_BELOWgSM&!E$DOT_BELOWg%!E$HOOK_ABOVEgSM&!E$HOOK_ABOVEg%!E$TILDE
gSM&!E$TILDEg%!E$CIRCUMF|X_=^ACUTEgSM&!E$CIRCUMF|X_=^ACUTEg%!E$CIRCUMF|X_=^GRAVE
gSM&!E$CIRCUMF|X_=^GRAVEg%!E$CIRCUMF|X_=^HOOK_ABOVEgSM&!E$CIRCUMF|X_=^HOOK_ABOVE
g%!E$CIRCUMF|X_=^TILDEgSM&!E$CIRCUMF|X_=^TILDEg%!E$CIRCUMF|X_=^DOT_BELOWgSM&!E$CIRCUMF|X_=^DOT_BELOW
g%!I$HOOK_ABOVEgSM&!I$HOOK_ABOVEg%!I$DOT_BELOWgSM&!I$DOT_BELOWg%!O$DOT_BELOWgSM&!O$DOT_BELOW
g%!O$HOOK_ABOVEgSM&!O$HOOK_ABOVEg%!O$CIRCUMF|X_=^ACUTEgSM&!O$CIRCUMF|X_=^ACUTEg%!O$CIRCUMF|X_=^GRAVE
gSM&!O$CIRCUMF|X_=^GRAVEg%!O$CIRCUMF|X_=^HOOK_ABOVEgSM&!O$CIRCUMF|X_=^HOOK_ABOVE
g%!O$CIRCUMF|X_=^TILDEgSM&!O$CIRCUMF|X_=^TILDEg%!O$CIRCUMF|X_=^DOT_BELOWgSM&!O$CIRCUMF|X_=^DOT_BELOW
g%!O$HORN_=^ACUTEgSM&!O$HORN_=^ACUTEg%!O$HORN_=^GRAVEgSM&!O$HORN_=^GRAVEg%!O$HORN_=^HOOK_ABOVE
gSM&!O$HORN_=^HOOK_ABOVEg%!O$HORN_=^TILDEgSM&!O$HORN_=^TILDEg%!O$HORN_=^DOT_BELOW
gSM&!O$HORN_=^DOT_BELOWg%!U$DOT_BELOWgSM&!U$DOT_BELOWg%!U$HOOK_ABOVEgSM&!U$HOOK_ABOVE
g%!U$HORN_=^ACUTEgSM&!U$HORN_=^ACUTEg%!U$HORN_=^GRAVEgSM&!U$HORN_=^GRAVEg%!U$HORN_=^HOOK_ABOVE
gSM&!U$HORN_=^HOOK_ABOVEg%!U$HORN_=^TILDEgSM&!U$HORN_=^TILDEg%!U$HORN_=^DOT_BELOW
gSM&!U$HORN_=^DOT_BELOWg%!Y$GRAVEgSM&!Y$GRAVEg%!Y$DOT_BELOWgSM&!Y$DOT_BELOWg%!Y$HOOK_ABOVE
gSM&!Y$HOOK_ABOVEg%!Y$TILDEgSM&!Y$TILDEg%!MIDD|-WELSH_LLgSM&!MIDD|-WELSH_LLg%!MIDD|-WELSH_V
gSM&!MIDD|-WELSH_Vg%!Y$LOOPgSM&!Y$LOOPaGREEK>M&!&PHA$PSILIy$DASIAy$PSILI_=^V+IAy$DASIA_=^V+IA
y$PSILI_=^OXIAy$DASIA_=^OXIAy$PSILI_=^P,ISPOM~Iy$DASIA_=^P,ISPOM~Ig%!&PHA$PSILIyHA$DASIA
yHA$PSILI_=^V+IAyHA$DASIA_=^V+IAyHA$PSILI_=^OXIAyHA$DASIA_=^OXIAyHA$PSILI_=^P,ISPOM~I
yHA$DASIA_=^P,ISPOM~IgSM&!EPSIL@$PSILIy@$DASIAy@$PSILI_=^V+IAy@$DASIA_=^V+IAy@$PSILI_=^OXIA
y@$DASIA_=^OXIAz1F18g%!EPSIL@$PSILIyIL@$DASIAyIL@$PSILI_=^V+IAyIL@$DASIA_=^V+IAyIL@$PSILI_=^OXIA
yIL@$DASIA_=^OXIAz1F20gSM&!ETA$PSILIyITH_DASIAyITH_PSILI_=^V+IAyITH_DASIA_=^V+IAyITH_PSILI_=^OXIA
yITH_DASIA_=^OXIAyITH_PSILI_=^P,ISPOM~IyITH_DASIA_=^P,ISPOM~Ig%!ETA$PSILIy$DASIAy$PSILI_=^V+IA
y$DASIA_=^V+IAy$PSILI_=^OXIAy$DASIA_=^OXIAy$PSILI_=^P,ISPOM~Iy$DASIA_=^P,ISPOM~IgSM&!IOTA$PSILI
yWITH_DASIAyWITH_PSILI_=^V+IAyWITH_DASIA_=^V+IAyWITH_PSILI_=^OXIAyWITH_DASIA_=^OXIA
yWITH_PSILI_=^P,ISPOM~IyWITH_DASIA_=^P,ISPOM~Ig%!IOTA$PSILIyA$DASIAyA$PSILI_=^V+IAyA$DASIA_=^V+IA
yA$PSILI_=^OXIAyA$DASIA_=^OXIAyA$PSILI_=^P,ISPOM~IyA$DASIA_=^P,ISPOM~IgSM&!OMICR@$PSILIy@$DASIA
y@$PSILI_=^V+IAy@$DASIA_=^V+IAy@$PSILI_=^OXIAy@$DASIA_=^OXIAz1F48g%!OMICR@$PSILIyCR@$DASIA
yCR@$PSILI_=^V+IAyCR@$DASIA_=^V+IAyCR@$PSILI_=^OXIAyCR@$DASIA_=^OXIAz1F50gSM&!UPSIL@$PSILIy@$DASIA
y@$PSILI_=^V+IAy@$DASIA_=^V+IAy@$PSILI_=^OXIAy@$DASIA_=^OXIAy@$PSILI_=^P,ISPOM~Iy@$DASIA_=^P,ISPOM~I
z1F59g%!UPSIL@$DASIAz1F5ByIL@$DASIA_=^V+IAz1F5DyIL@$DASIA_=^OXIAz1F5FyIL@$DASIA_=^P,ISPOM~I
gSM&!OMEGA$PSILIy$DASIAy$PSILI_=^V+IAy$DASIA_=^V+IAy$PSILI_=^OXIAy$DASIA_=^OXIAy$PSILI_=^P,ISPOM~I
y$DASIA_=^P,ISPOM~Ig%!OMEGA$PSILIyGA$DASIAyGA$PSILI_=^V+IAyGA$DASIA_=^V+IAyGA$PSILI_=^OXIA
yGA$DASIA_=^OXIAyGA$PSILI_=^P,ISPOM~IyGA$DASIA_=^P,ISPOM~IgSM&!&PHA$V+IAy$OXIAtEPSIL@$V+IAy@$OXIA
uTA$V+IAyITH_OXIAtIOTA$V+IAyWITH_OXIAtOMICR@$V+IAy@$OXIAtUPSIL@$V+IAy@$OXIAtOMEGA$V+IAy$OXIA
z1F80t&PHA$PSILI_=^YPOGEGRAMM~Iy$DASIA_=^YPOGEGRAMM~Iy$PSILI_=^V+IA_=^YPOGEGRAMM~I
y$DASIA_=^V+IA_=^YPOGEGRAMM~Iy$PSILI_=^OXIA_=^YPOGEGRAMM~Iy$DASIA_=^OXIA_=^YPOGEGRAMM~I
y$PSILI_=^P,ISPOM~I_=^YPOGEGRAMM~Iy$DASIA_=^P,ISPOM~I_=^YPOGEGRAMM~Ig%!&PHA$PSILI_=^PROSGEGRAMM~I
yHA$DASIA_=^PROSGEGRAMM~IyHA$PSILI_=^V+IA_=^PROSGEGRAMM~IyHA$DASIA_=^V+IA_=^PROSGEGRAMM~I
yHA$PSILI_=^OXIA_=^PROSGEGRAMM~IyHA$DASIA_=^OXIA_=^PROSGEGRAMM~I
yHA$PSILI_=^P,ISPOM~I_=^PROSGEGRAMM~IyHA$DASIA_=^P,ISPOM~I_=^PROSGEGRAMM~I
gSM&!ETA$PSILI_=^YPOGEGRAMM~IyITH_DASIA_=^YPOGEGRAMM~IyITH_PSILI_=^V+IA_=^YPOGEGRAMM~I
yITH_DASIA_=^V+IA_=^YPOGEGRAMM~IyITH_PSILI_=^OXIA_=^YPOGEGRAMM~IyITH_DASIA_=^OXIA_=^YPOGEGRAMM~I
yITH_PSILI_=^P,ISPOM~I_=^YPOGEGRAMM~IyITH_DASIA_=^P,ISPOM~I_=^YPOGEGRAMM~I
g%!ETA$PSILI_=^PROSGEGRAMM~Iy$DASIA_=^PROSGEGRAMM~Iy$PSILI_=^V+IA_=^PROSGEGRAMM~I
y$DASIA_=^V+IA_=^PROSGEGRAMM~Iy$PSILI_=^OXIA_=^PROSGEGRAMM~Iy$DASIA_=^OXIA_=^PROSGEGRAMM~I
y$PSILI_=^P,ISPOM~I_=^PROSGEGRAMM~Iy$DASIA_=^P,ISPOM~I_=^PROSGEGRAMM~I
gSM&!OMEGA$PSILI_=^YPOGEGRAMM~Iy$DASIA_=^YPOGEGRAMM~Iy$PSILI_=^V+IA_=^YPOGEGRAMM~I
y$DASIA_=^V+IA_=^YPOGEGRAMM~Iy$PSILI_=^OXIA_=^YPOGEGRAMM~Iy$DASIA_=^OXIA_=^YPOGEGRAMM~I
y$PSILI_=^P,ISPOM~I_=^YPOGEGRAMM~Iy$DASIA_=^P,ISPOM~I_=^YPOGEGRAMM~Ig%!OMEGA$PSILI_=^PROSGEGRAMM~I
yGA$DASIA_=^PROSGEGRAMM~IyGA$PSILI_=^V+IA_=^PROSGEGRAMM~IyGA$DASIA_=^V+IA_=^PROSGEGRAMM~I
yGA$PSILI_=^OXIA_=^PROSGEGRAMM~IyGA$DASIA_=^OXIA_=^PROSGEGRAMM~I
yGA$PSILI_=^P,ISPOM~I_=^PROSGEGRAMM~IyGA$DASIA_=^P,ISPOM~I_=^PROSGEGRAMM~IgSM&!&PHA$VRACHYy$MACR@
y$V+IA_=^YPOGEGRAMM~Iy$YPOGEGRAMM~Iy$OXIA_=^YPOGEGRAMM~Iz1FB6y$P,ISPOM~Iy$P,ISPOM~I_=^YPOGEGRAMM~I
g%!&PHA$VRACHYyHA$MACR@yHA$V+IAyHA$OXIAyHA$PROSGEGRAMM~IgKOR@ISgPROSGEGRAMM~IhSILIh,ISPOM~I
gDI&YTIKA_=^P,ISPOM~IgSM&!ETA$V+IA_=^YPOGEGRAMM~IyITH_YPOGEGRAMM~IyITH_OXIA_=^YPOGEGRAMM~I
z1FC6yITH_P,ISPOM~IyITH_P,ISPOM~I_=^YPOGEGRAMM~Ig%!EPSIL@$V+IAyIL@$OXIAwTA$V+IAy$OXIAy$PROSGEGRAMM~I
gPSILI_=^V+IAqOXIAqP,ISPOM~IgSM&!IOTA$VRACHYyWITH_MACR@yWITH_DI&YTIKA_=^V+IAyWITH_DI&YTIKA_=^OXIA
z1FD6yWITH_P,ISPOM~IyWITH_DI&YTIKA_=^P,ISPOM~Ig%!IOTA$VRACHYyA$MACR@yA$V+IAyA$OXIAz1FDDgDASIA_=^V+IA
qOXIAqP,ISPOM~IgSM&!UPSIL@$VRACHYy@$MACR@y@$DI&YTIKA_=^V+IAy@$DI&YTIKA_=^OXIAtRHO$PSILIyITH_DASIA
tUPSIL@$P,ISPOM~Iy@$DI&YTIKA_=^P,ISPOM~Ig%!UPSIL@$VRACHYyIL@$MACR@yIL@$V+IAyIL@$OXIAvRHO$DASIA
gDI&YTIKA_=^V+IAuOXIAgV+IAz1FF2gSM&!OMEGA$V+IA_=^YPOGEGRAMM~Iy$YPOGEGRAMM~Iy$OXIA_=^YPOGEGRAMM~I
z1FF6y$P,ISPOM~Iy$P,ISPOM~I_=^YPOGEGRAMM~Ig%!OMICR@$V+IAyCR@$OXIAxEGA$V+IAyGA$OXIAyGA$PROSGEGRAMM~I
gOXIAgDASIA"

end Conform
